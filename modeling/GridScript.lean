import GridScript.Agent.Recorder
import GridScript.Link.Rehearsal
import GridScript.Link.Simulator
import GridScript.Main
import GridScript.Proofs.Pilot.Attribution
import GridScript.Proofs.Pilot.Caution
import GridScript.Proofs.Pilot.Faults
import GridScript.Proofs.Pilot.Logging
import GridScript.Proofs.Pilot.NewGrid
import GridScript.Proofs.Pilot.Refinement
import GridScript.Proofs.Script.Interruption
import GridScript.Proofs.Script.Layout
import GridScript.Proofs.Script.Meaning
import GridScript.Proofs.Script.Sealing
import GridScript.Proofs.Session.Conservation
import GridScript.Proofs.Session.Conversation
import GridScript.Proofs.Session.OneLine
import GridScript.Proofs.Token.Listing
import GridScript.Proofs.Wire.Canonical
import GridScript.Proofs.Link.Answering
import GridScript.Proofs.Script.Congruence
import GridScript.Proofs.Script.CallDepth
import GridScript.Proofs.Script.Finishing
import GridScript.Proofs.Bounded.LineTable
import GridScript.Proofs.Bounded.Pilot
import GridScript.Proofs.Bounded.Positions
import GridScript.Proofs.Bounded.Run
import GridScript.Proofs.Bounded.Session
import GridScript.Proofs.Script.Aftermath
import GridScript.Proofs.Script.Oversight
import GridScript.Proofs.Script.Pointing
import GridScript.Proofs.Script.Quotations
