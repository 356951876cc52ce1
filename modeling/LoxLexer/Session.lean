import LoxLexer.Scan

/-!
# Sessions

Several readers share one scan: an item goes to the reader that asks for it, and no other sees it.
A reader that has met the end or an error is finished for good; one that is opened later carries on
where the scan stands.
-/

namespace LoxLexer

structure Session where
  scan : Scan
  finished : List Bool
deriving DecidableEq

namespace Session

def start (source : Text) : Session := ⟨.start source, []⟩

-- A reader that was never opened counts as finished.
def isFinished (s : Session) (reader : Nat) : Bool := s.finished.getD reader true

def openReader (s : Session) : Nat × Session :=
  (s.finished.length, { s with finished := s.finished ++ [false] })

def finish (s : Session) (reader : Nat) (scan : Scan) : Session :=
  ⟨scan, s.finished.set reader true⟩

def next (s : Session) (reader : Nat) : Option Item × Session :=
  if s.isFinished reader then (none, s)
  else
    match s.scan.pull with
    | (some (.token t), scan) => (some (.token t), { s with scan })
    | (item?, scan) => (item?, s.finish reader scan)

def drain (s : Session) (reader : Nat) : List Token × Option ScanError × Session :=
  if s.isFinished reader then ([], none, s)
  else
    let drained := s.scan.drain
    (drained.tokens, drained.error?, s.finish reader drained.scan)

theorem next_of_finished {s : Session} {reader : Nat} (h : s.isFinished reader = true) :
    s.next reader = (none, s) := by simp [next, h]

theorem drain_of_finished {s : Session} {reader : Nat} (h : s.isFinished reader = true) :
    s.drain reader = ([], none, s) := by simp [drain, h]

inductive Step
  | openReader
  | next (reader : Nat)
  | drain (reader : Nat)
  | look
deriving DecidableEq, Repr

inductive Answer
  | reader (index : Nat)
  | item (item? : Option Item)
  | items (tokens : List Token) (error? : Option ScanError)
  | nothing
deriving DecidableEq

def step (s : Session) : Step → Answer × Session
  | .openReader => let (index, s) := s.openReader; (.reader index, s)
  | .next reader => let (item?, s) := s.next reader; (.item item?, s)
  | .drain reader =>
    let (tokens, error?, s) := s.drain reader
    (.items tokens error?, s)
  | .look => (.nothing, s)

def run (s : Session) : List Step → List (Answer × Session)
  | [] => []
  | step :: steps =>
    let answered := s.step step
    answered :: answered.2.run steps

end Session
end LoxLexer
