import Fanout.Buffer.Dump
import Fanout.Main
import Fanout.Proofs.Draining
import Fanout.Proofs.Acceptance
import Fanout.Proofs.Partial
import Fanout.Proofs.Completion
import Fanout.Proofs.Recognition
import Fanout.Proofs.Interests
import Fanout.Proofs.Intake
import Fanout.Proofs.Moves
import Fanout.Proofs.Script
import Fanout.Proofs.Serving
import Fanout.Proofs.Frames
import Fanout.Proofs.Waking
import Fanout.Proofs.Settling
import Fanout.Proofs.Answering
import Fanout.Proofs.Delivery
import Fanout.Proofs.Writing
import Fanout.Proofs.Encoding
import Fanout.Proofs.Sending
import Fanout.Proofs.Heads
import Fanout.Proofs.Answers
import Fanout.Proofs.Reuse
import Fanout.Proofs.Usage
import Fanout.Proofs.Evolution
import Fanout.Proofs.Session
import Fanout.Proofs.Accounting
import Fanout.Proofs.Blindness
import Fanout.Proofs.Renewal
import Fanout.Proofs.Bookkeeping
import Fanout.Proofs.Lasting
import Fanout.Proofs.Atomicity
import Fanout.Proofs.Lifecycle
import Fanout.Proofs.Apart
import Fanout.Proofs.InStep
import Fanout.Proofs.Unbroken
import Fanout.Proofs.Separation
import Fanout.Proofs.Deadline
import Fanout.Proofs.Region
import Fanout.Proofs.Appending
import Fanout.Proofs.Headroom
import Fanout.Proofs.EndOfStream
import Fanout.Proofs.Visiting
import Fanout.Proofs.Survival
import Fanout.Proofs.Addressing
import Fanout.Proofs.Integers
import Fanout.Proofs.Lengths
import Fanout.Proofs.Awaiting
import Fanout.Proofs.CommandLine
import Fanout.Proofs.Messages
