import Deinterlace.Main
import Deinterlace.Probe.Json
import Deinterlace.Va.Driver
import Deinterlace.Va.Display
import Deinterlace.Window.Trim
import Deinterlace.Proofs.Options.Composition
import Deinterlace.Proofs.Window.History
import Deinterlace.Proofs.Window.FieldTime
import Deinterlace.Proofs.Session.Agreement
import Deinterlace.Proofs.Session.Journal
import Deinterlace.Proofs.Session.Fields
import Deinterlace.Proofs.Simulator.Submission
import Deinterlace.Proofs.Simulator.Readiness
import Deinterlace.Proofs.Window.References
import Deinterlace.Proofs.Simulator.Opening
import Deinterlace.Proofs.Session.Reference
import Deinterlace.Proofs.Simulator.Outputs
import Deinterlace.Proofs.Simulator.Run
import Deinterlace.Proofs.Session.Upkeep
import Deinterlace.Proofs.Session.Custody
import Deinterlace.Proofs.Device.Stock
import Deinterlace.Proofs.Simulator.Effects
import Deinterlace.Proofs.Simulator.Stock
import Deinterlace.Proofs.Va.Effects
import Deinterlace.Proofs.Va.Stock
import Deinterlace.Proofs.Session.Exclusive
import Deinterlace.Proofs.Device.Traced
import Deinterlace.Proofs.Session.Parallel
import Deinterlace.Proofs.Simulator.Ledger
import Deinterlace.Proofs.Session.Teardown
import Deinterlace.Proofs.Va.Ledger
import Deinterlace.Proofs.Session.Closing
import Deinterlace.Proofs.Session.Depths
import Deinterlace.Proofs.Va.Log
import Deinterlace.Proofs.Va.Housing
import Deinterlace.Proofs.Va.Lasting
import Deinterlace.Proofs.Session.Outliving
import Deinterlace.Proofs.Session.Coupling
import Deinterlace.Proofs.Session.InStep
import Deinterlace.Proofs.Session.Moves
import Deinterlace.Proofs.Device.Pairing
import Deinterlace.Proofs.Simulator.Verdict
import Deinterlace.Proofs.Simulator.Linked
import Deinterlace.Proofs.Session.Afresh
import Deinterlace.Proofs.Simulator.Settings
import Deinterlace.Proofs.Session.Waiting
import Deinterlace.Proofs.Session.Oblivion
import Deinterlace.Proofs.Va.Reading
import Deinterlace.Proofs.Va.Compliant
import Deinterlace.Proofs.Va.Scripted
import Deinterlace.Proofs.Va.Truthful
import Deinterlace.Proofs.Va.Following
import Deinterlace.Proofs.Session.Refinement
import Deinterlace.Proofs.Session.Draining
import Deinterlace.Proofs.Session.Feeding
import Deinterlace.Proofs.Session.Turns
import Deinterlace.Proofs.Session.Driving
import Deinterlace.Proofs.Window.Sliding
import Deinterlace.Proofs.Session.Latency
import Deinterlace.Proofs.Simulator.Recycling
import Deinterlace.Proofs.Simulator.Uniform
import Deinterlace.Proofs.Command.Simulation
import Deinterlace.Proofs.Device.Bisimulation
import Deinterlace.Proofs.Device.Recorded
import Deinterlace.Proofs.Simulator.Indifferent
import Deinterlace.Proofs.Va.Indifferent
import Deinterlace.Proofs.Session.Renegotiation
import Deinterlace.Proofs.Session.Degradation
import Deinterlace.Proofs.Session.Exhaustion
import Deinterlace.Proofs.Image.Placement
import Deinterlace.Proofs.Image.Filling
import Deinterlace.Proofs.Session.Sparing
import Deinterlace.Proofs.Device.Replay
import Deinterlace.Proofs.Simulator.Marking
import Deinterlace.Proofs.Va.Lending
import Deinterlace.Proofs.Va.Uploading
import Deinterlace.Proofs.Session.Capacity
import Deinterlace.Proofs.Probe.Traceless
import Deinterlace.Proofs.Device.Capacity
import Deinterlace.Proofs.Device.Matching
import Deinterlace.Proofs.Simulator.Mirrored
import Deinterlace.Proofs.Simulator.Residue
import Deinterlace.Proofs.Session.Readings
import Deinterlace.Proofs.Session.Sequel
import Deinterlace.Proofs.Session.Refusal
import Deinterlace.Proofs.Image.Addressing
