import Proofplane.Base.Time
import Proofplane.Domain.Ids

/-!
# Evidence submissions

A submission says for which evidence item, by whom and for which window a document was handed in.
-/

namespace Proofplane
open Base

/-- a window that has been accepted, by the counts of its instants -/
structure CoverageWindow where
  validFrom : Int
  validUntil : Int
  deriving DecidableEq, Repr

/-- the window as the database keeps it -/
def CoverageWindow.toRow (c : CoverageWindow) : CoverageWindow :=
  ⟨pgTimestamp c.validFrom, pgTimestamp c.validUntil⟩

inductive EvidenceSubmitter
  | agentConnection (agentConnectionId : AgentConnectionId) (userId : UserId)
  deriving DecidableEq, Repr

structure EvidenceSubmission where
  id : EvidenceSubmissionId
  evidenceId : EvidenceId
  submittedBy : EvidenceSubmitter
  receivedAt : Int
  validFrom : Int
  validUntil : Int
  deriving DecidableEq, Repr

namespace EvidenceSubmission

def create (id : EvidenceSubmissionId) (evidenceId : EvidenceId) (submittedBy : EvidenceSubmitter)
    (coverage : CoverageWindow) (receivedAt : Int) : EvidenceSubmission where
  id := id
  evidenceId := evidenceId
  submittedBy := submittedBy
  receivedAt := receivedAt
  validFrom := coverage.validFrom
  validUntil := coverage.validUntil

def coverage (s : EvidenceSubmission) : CoverageWindow := ⟨s.validFrom, s.validUntil⟩

/-- the row of a submission: every instant in whole microseconds -/
def toRow (s : EvidenceSubmission) : EvidenceSubmission :=
  { s with
    receivedAt := pgTimestamp s.receivedAt
    validFrom := pgTimestamp s.validFrom
    validUntil := pgTimestamp s.validUntil }

end EvidenceSubmission

end Proofplane
