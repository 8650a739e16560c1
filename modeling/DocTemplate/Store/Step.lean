import DocTemplate.Store.Show

/-!
# Steps

All that can be asked of a store, as steps that follow one another. A step that fails is answered with
its failure, and the next one goes on from the store it leaves.
-/

namespace DocTemplate.Store

/-- What can be asked of a store. -/
inductive Step where
  | save (r : SaveRequest)
  | publish (template : Int) (version : Option Int)
  | get (template : Int)
  | version (version : Int)
  | versions (template : Int)
  | list
  | delete (template : Int)
  | preview (r : ShowRequest)
  | generate (r : ShowRequest)

/-- What a store answers. -/
inductive Reply where
  | template (t : Option Template)
  | version (v : Option Version)
  | versions (vs : List Version)
  | templates (ts : List Template)
  | preview (p : Preview)
  | generated (g : Generated)
  | deleted

def Step.access (around : Surroundings) : Step → Access Reply
  | .save r => (Reply.template ∘ some) <$> Store.save r
  | .publish id versionId => (Reply.template ∘ some) <$> Store.publish id versionId
  | .get id => .template <$> lookTemplate id
  | .version id => .version <$> lookVersion id
  | .versions id => .versions <$> lookVersions id
  | .list => do pure (.templates (← MonadState.get).listed)
  | .delete id => do
    Store.delete id
    pure .deleted
  | .preview r => .preview <$> Store.preview around r
  | .generate r => .generated <$> Store.generate around r

/-- An action on a store: its answer and the store it leaves. -/
def run {β : Type} (action : Access β) (s : Store) : Except StoreFailure β × Store :=
  (action.run.run s)

/-- A step on a store: its answer and the store it leaves. -/
def Step.run (around : Surroundings) (step : Step) (s : Store) : Except StoreFailure Reply × Store :=
  Store.run (step.access around) s

def runAll (around : Surroundings) (steps : List Step) (s : Store) : Store :=
  steps.foldl (fun s step => (step.run around s).2) s

end DocTemplate.Store
