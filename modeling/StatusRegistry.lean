import StatusRegistry.Main
import StatusRegistry.Survey
import StatusRegistry.Proofs.Ascii
import StatusRegistry.Proofs.Numerals
import StatusRegistry.Proofs.Unseparated
import StatusRegistry.Proofs.Registry
import StatusRegistry.Proofs.Outcomes
import StatusRegistry.Proofs.Readings
import StatusRegistry.Proofs.Failures
import StatusRegistry.Proofs.Spelling
import StatusRegistry.Proofs.AsciiTexts
import StatusRegistry.Proofs.Bands
import StatusRegistry.Proofs.Indexes
import StatusRegistry.Proofs.Answers
import StatusRegistry.Proofs.Padding
import StatusRegistry.Proofs.Scan
import StatusRegistry.Proofs.Saturation
import StatusRegistry.Proofs.Citations
import StatusRegistry.Proofs.Messages
import StatusRegistry.Proofs.ClassOrder
