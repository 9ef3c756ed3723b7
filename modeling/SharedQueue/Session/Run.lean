/-
SharedQueue.Session.Run — carrying out a script.

* `Session.perform` — one request, and what its handle sees afterwards.
* `Session.script` — one request after the other.
-/
import SharedQueue.Session.Task

namespace SharedQueue

namespace Session

/-- What a script is told about one request. -/
structure Entry where
  answer : Answer
  view : Option View

/-- Carries out a request with nobody else around. One that would never end
has no answer. -/
def run (s : Session) (step : Step) : Session × Answer :=
  let last := (Scene.start s [.ready (.fresh step)]).run Task.step Scene.budget
  (last.world, (last.parties.head?.bind Party.result?).getD .absent)

/-- Carries out a request and adds what its handle sees afterwards. -/
def perform (s : Session) (step : Step) : Session × Entry :=
  let (s, answer) := s.run step
  (s, ⟨answer, step.handle?.bind s.view?⟩)

/-- Carries out one request after the other. -/
def script (s : Session) : List Step → Session × List Entry
  | [] => (s, [])
  | step :: rest =>
    let (s, entry) := s.perform step
    let (s, entries) := s.script rest
    (s, entry :: entries)

end Session

end SharedQueue
