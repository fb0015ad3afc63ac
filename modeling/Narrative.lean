import Narrative.Document.Json
import Narrative.Graph.Search
import Narrative.Json.Reader
import Narrative.Session.Story
import Narrative.Proofs.Graph.Lookup
import Narrative.Proofs.Session.Moves
import Narrative.Proofs.Session.Undo
import Narrative.Proofs.Graph.Kind
import Narrative.Proofs.Script.Guard
import Narrative.Proofs.Session.Diagnosis
import Narrative.Proofs.Session.Replay
import Narrative.Proofs.Variables.Agreement
import Narrative.Proofs.Variables.Holding
import Narrative.Proofs.Session.Likeness
import Narrative.Proofs.Session.Lockstep
import Narrative.Proofs.Session.Declarations
import Narrative.Session.Transaction
import Narrative.Proofs.Session.Transaction
import Narrative.Proofs.Session.Idle
import Narrative.Proofs.Session.Fresh
import Narrative.Proofs.Session.Trail
import Narrative.Proofs.Session.Records
import Narrative.Proofs.Session.PassingBy
import Narrative.Proofs.Session.Budget
import Narrative.Proofs.Session.Forgetting
import Narrative.Proofs.Document.Preorder
import Narrative.Proofs.Graph.Outline
import Narrative.Proofs.Graph.Scan
import Narrative.Proofs.Graph.Containment
import Narrative.Proofs.Session.Enclosure
import Narrative.Proofs.Graph.Lineage
import Narrative.Proofs.Graph.Enclosing
import Narrative.Proofs.Session.Descent
import Narrative.Proofs.Session.Arrangement
import Narrative.Proofs.Session.Selection
import Narrative.Proofs.Document.Plain
import Narrative.Proofs.Session.Presentation
import Narrative.Proofs.Graph.Resemblance
import Narrative.Proofs.Variables.Setting
import Narrative.Proofs.Variables.Batching
import Narrative.Proofs.Script.Assignment
import Narrative.Proofs.Json.Record
import Narrative.Proofs.Variables.Stored
import Narrative.Proofs.Document.Stored
import Narrative.Proofs.Text.Split
import Narrative.Proofs.Text.Trim
import Narrative.Proofs.Script.Reading
import Narrative.Proofs.Script.Compound
import Narrative.Proofs.Script.Remarks
import Narrative.Proofs.Script.Fulfilment
import Narrative.Proofs.Graph.Choices
import Narrative.Proofs.Session.Offering
import Narrative.Proofs.Session.Preview
import Narrative.Proofs.Session.Walk
import Narrative.Proofs.Script.Writing
import Narrative.Proofs.Number.Numeral
import Narrative.Proofs.Number.Rounding
import Narrative.Proofs.Script.Literal
import Narrative.Proofs.Text.LowerCase
import Narrative.Proofs.Graph.Search
import Narrative.Proofs.Text.ByteOrder
import Narrative.Proofs.Variables.Everywhere
import Narrative.Proofs.Variables.Listing
import Narrative.Proofs.Script.Listing
