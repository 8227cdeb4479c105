import Wordbook.Proofs.Session.Failures
import Wordbook.Proofs.Session.Workflows

/-!
# What requests leave alone

Generating, changing relations, starting and the dialogs write nothing.  Such a request, if it
fails, leaves the state and the stores as they were.
-/

namespace Wordbook
namespace Session

variable {Result Next : Type}

/-- The session has the given state and the given stores. -/
def IsAt (state : Option State) (stores : Stores) : Condition :=
  fun foundState foundStores => foundState = state ∧ foundStores = stores

/-- The stores of the session are the given ones. -/
def HasStores (stores : Stores) : Condition := fun _ found => found = stores

/-- Whatever comes of an action, the stores are the ones from before. -/
def LeavesStores (act : Act Result) : Prop := ∀ stores, Keeps (HasStores stores) act

namespace LeavesStores

protected theorem bind
    {act : Act Result}
    {next : Result → Act Next}
    (first : LeavesStores act)
    (second : ∀ result, LeavesStores (next result)) :
    LeavesStores (act >>= next) :=
  fun stores => Keeps.bind (first stores) fun result => second result stores

theorem ofKeeps {act : Act Result} (kept : ∀ condition, Keeps condition act) : LeavesStores act :=
  fun stores => kept (HasStores stores)

theorem replaceState (state : State) : LeavesStores (replaceState state) :=
  fun _ => Ensures.replaceState fun _ _ met => met

theorem generate (alphabet maxLength : Json) (force : Bool) :
    LeavesStores (generate alphabet maxLength force) := by
  refine .bind (ofKeeps fun _ => Keeps.requireState) fun state => ?_
  refine .bind (ofKeeps fun _ => Keeps.require) fun symbols => ?_
  refine .bind (ofKeeps fun _ => Keeps.require) fun length => ?_
  rcases Lexicon.count symbols.length length (some Lexicon.threshold) with ⟨count, exact⟩
  dsimp only
  split
  · exact ofKeeps fun _ => Keeps.throw
  · refine .bind (ofKeeps fun _ => Keeps.require) fun lexicon => ?_
    exact .bind (replaceState _) fun _ => ofKeeps fun _ => Keeps.pure

theorem append (state : State) (name body : String) : LeavesStores (append state name body) := by
  unfold Session.append
  split
  · exact ofKeeps fun _ => Keeps.throw
  · intro stores
    refine Ensures.note (fun _ => rfl) (fun _ => rfl) fun session => ?_
    exact Keeps.bind (replaceState _ stores) fun _ => Keeps.pure

theorem revise
    (state : State)
    (id : Json)
    (name body : String) :
    LeavesStores (revise state id name body) := by
  refine .bind (ofKeeps fun _ => Keeps.permit) fun target => ?_
  split
  · exact ofKeeps fun _ => Keeps.throw
  · split
    · exact ofKeeps fun _ => Keeps.throw
    · exact .bind (replaceState _) fun _ => ofKeeps fun _ => Keeps.pure

theorem upsert (name definition id : Json) : LeavesStores (upsert name definition id) := by
  refine .bind (ofKeeps fun _ => Keeps.requireState) fun state => ?_
  refine .bind (ofKeeps fun _ => Keeps.permit) fun normalized => ?_
  refine .bind (ofKeeps fun _ => Keeps.permit) fun body => ?_
  refine .bind (ofKeeps fun _ => Keeps.permit) fun _ => ?_
  split
  · exact append state normalized body
  · exact revise state id normalized body

theorem delete (id : Json) : LeavesStores (delete id) := by
  refine .bind (ofKeeps fun _ => Keeps.requireState) fun state => ?_
  refine .bind (ofKeeps fun _ => Keeps.permit) fun target => ?_
  split
  · exact ofKeeps fun _ => Keeps.throw
  · exact .bind (replaceState _) fun _ => ofKeeps fun _ => Keeps.pure

theorem findStored (path : Json) (restore : Bool) : LeavesStores (findStored path restore) := by
  unfold Session.findStored
  split
  · exact .bind (ofKeeps fun _ => Keeps.consult) fun _ => ofKeeps fun _ => Keeps.pure
  · split
    · exact .bind (ofKeeps fun _ => Keeps.consult) fun _ => ofKeeps fun _ => Keeps.pure
    · exact ofKeeps fun _ => Keeps.pure

theorem load (path : Json) (restore : Bool) : LeavesStores (load path restore) := by
  refine .bind (findStored path restore) fun found => ?_
  split
  · exact .bind (ofKeeps fun _ => Keeps.permit) fun _ => ofKeeps fun _ => Keeps.pure
  · exact ofKeeps fun _ => Keeps.pure

theorem start (path : Json) (restore : Bool) : LeavesStores (start path restore) := by
  have loaded : LeavesStores
      (tryCatch (some <$> Session.load path restore) fun failure =>
        if isSurvivable failure then return none else throw failure) := by
    intro stores
    rw [map_eq_pure_bind]
    refine Ensures.tryCatch (Keeps.bind (load path restore stores) fun _ => Keeps.pure) ?_
    intro failure
    split
    · exact Keeps.pure
    · exact Keeps.throw
  refine .bind loaded fun found => ?_
  split
  · exact .bind (replaceState _) fun _ => ofKeeps fun _ => Keeps.pure
  · exact .bind (replaceState _) fun _ => ofKeeps fun _ => Keeps.pure
  · exact .bind (replaceState _) fun _ => ofKeeps fun _ => Keeps.pure

end LeavesStores

/-- A request that writes nothing and fails leaves everything as it was; one that succeeds leaves
the stores. -/
theorem FailsCleanly.untouched
    {act : Act Answer}
    (cleanly : FailsCleanly act)
    (leaves : LeavesStores act)
    (state : Option State)
    (stores : Stores) :
    Ensures (IsAt state stores) act
      (fun answer foundState foundStores =>
        answer.success = true ∧ HasStores stores foundState foundStores)
      (IsAt state stores) :=
  (cleanly state).and (leaves stores)

end Session
end Wordbook
