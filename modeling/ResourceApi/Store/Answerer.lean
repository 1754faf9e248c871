import ResourceApi.Script
import ResourceApi.Store.Session

/-!
# The store as a repository

Answers the calls of a script from a session of the store. The store reports failures and never
crashes.

## Main definitions

- `Session.answer` — the answerer
- `Store.perform` — runs a script on the store, from a transaction with nothing staged
-/

namespace ResourceApi

variable {E α : Type} [Entity E]

def Session.answer : Script.Answerer E (Session E)
  | .findAll query, x => let (r, x) := x.findAll query; (.ofExcept r, x)
  | .findById id, x => let (r, x) := x.findById id; (.ofExcept r, x)
  | .contains id, x => let (r, x) := x.contains id; (.ofExcept r, x)
  | .begin, x => let (r, x) := x.begin; (.ofExcept r, x)
  | .insert e, x => let (r, x) := x.insert e; (.ofExcept r, x)
  | .update e, x => let (r, x) := x.update e; (.ofExcept r, x)
  | .updatePartial e, x => let (r, x) := x.update e; (.ofExcept r, x)
  | .delete id, x => let (r, x) := x.delete id; (.ofExcept r, x)
  | .commit, x => let (r, x) := x.commit; (.ofExcept r, x)
  | .rollback, x => let (r, x) := x.rollback; (.ofExcept r, x)
  | .release, x => let (r, x) := x.release; (.ofExcept r, x)

def Store.perform (store : Store E) (script : Script E α) : Script.Run E (Session E) α :=
  script.run Session.answer ⟨store, ∅⟩

end ResourceApi
