import Rulebook.Error
import Rulebook.Evaluation.Event

/-!
# Walks

Evaluating a rule walks through its tree.  A walk has a result or a defect of
the facts, it logs events, and it carries along a cache: the outputs of the rule
objects that were run so far.  The events and the cache of a walk that fails are
kept, up to the point of failure.

The cache lives for one evaluation only.  A missing output is an output too and
is cached as well.
-/

namespace Rulebook

/-- The outputs of rule objects, the latest first. -/
structure Cache where
  outputs : List (Nat × Option Resolved)

namespace Cache

/-- The cache at the start of an evaluation. -/
def empty : Cache :=
  ⟨[]⟩

/-- The output of a rule object, if the object was run. -/
def find? (cache : Cache) (object : Nat) : Option (Option Resolved) :=
  cache.outputs.lookup object

/-- The cache with one more output. -/
def add (cache : Cache) (object : Nat) (output : Option Resolved) : Cache :=
  ⟨(object, output) :: cache.outputs⟩

theorem find?_empty (object : Nat) : empty.find? object = none :=
  rfl

theorem find?_add (cache : Cache) (object : Nat) (output : Option Resolved)
    (wanted : Nat) :
    (cache.add object output).find? wanted =
      if wanted = object then some output else cache.find? wanted := by
  by_cases same : wanted = object
  · simp [add, find?, same]
  · simp [add, find?, List.lookup_cons, same, beq_false_of_ne same]

end Cache

/-- What a walk comes to from a given cache. -/
structure Step (α : Type) where
  result : Except EvalError α
  cache : Cache
  events : List Event

/-- A computation that may fail on the facts, logs events and reads and extends
the cache. -/
def Walk (α : Type) : Type :=
  Cache → Step α

namespace Walk

variable {α β : Type}

def pure (value : α) : Walk α :=
  fun cache => ⟨.ok value, cache, []⟩

/-- One walk after another.  The second one starts from the cache that the
first one leaves, and its events follow. -/
def bind (first : Walk α) (next : α → Walk β) : Walk β := fun cache =>
  let step := first cache
  match step.result with
  | .ok value =>
      let rest := next value step.cache
      ⟨rest.result, rest.cache, step.events ++ rest.events⟩
  | .error defect => ⟨.error defect, step.cache, step.events⟩

instance : Monad Walk where
  pure := pure
  bind := bind

def log (event : Event) : Walk Unit :=
  fun cache => ⟨.ok (), cache, [event]⟩

/-- Go on with a result, or fail. -/
def ofExcept (result : Except EvalError α) : Walk α :=
  fun cache => ⟨result, cache, []⟩

def lookUp (object : Nat) : Walk (Option (Option Resolved)) :=
  fun cache => ⟨.ok (cache.find? object), cache, []⟩

def remember (object : Nat) (output : Option Resolved) : Walk Unit :=
  fun cache => ⟨.ok (), cache.add object output, []⟩

@[simp]
theorem pure_apply (value : α) (cache : Cache) :
    (Pure.pure value : Walk α) cache = ⟨.ok value, cache, []⟩ :=
  rfl

theorem ofExcept_apply (result : Except EvalError α) (cache : Cache) :
    ofExcept result cache = ⟨result, cache, []⟩ :=
  rfl

/-- A walk that has a result goes on with it. -/
theorem bind_apply_of_ok {first : Walk α} {cache : Cache} {value : α}
    (next : α → Walk β) (ok : (first cache).result = .ok value) :
    (first >>= next) cache =
      ⟨(next value (first cache).cache).result,
        (next value (first cache).cache).cache,
        (first cache).events ++ (next value (first cache).cache).events⟩ := by
  simp only [Bind.bind, bind, ok]

/-- A walk that fails does not go on. -/
theorem bind_apply_of_error {first : Walk α} {cache : Cache} {defect : EvalError}
    (next : α → Walk β) (failed : (first cache).result = .error defect) :
    (first >>= next) cache =
      ⟨.error defect, (first cache).cache, (first cache).events⟩ := by
  simp only [Bind.bind, bind, failed]

theorem log_bind (event : Event) (next : Unit → Walk β) (cache : Cache) :
    (log event >>= next) cache =
      ⟨(next () cache).result, (next () cache).cache,
        event :: (next () cache).events⟩ :=
  rfl

theorem lookUp_bind (object : Nat) (next : Option (Option Resolved) → Walk β)
    (cache : Cache) :
    (lookUp object >>= next) cache = next (cache.find? object) cache :=
  rfl

theorem remember_bind (object : Nat) (output : Option Resolved)
    (next : Unit → Walk β) (cache : Cache) :
    (remember object output >>= next) cache = next () (cache.add object output) :=
  rfl

theorem bind_pure (walk : Walk α) : walk >>= Pure.pure = walk := by
  funext cache
  cases result : (walk cache).result with
  | ok value =>
      rw [bind_apply_of_ok _ result]
      simp [← result]
  | error defect =>
      rw [bind_apply_of_error _ result, ← result]

theorem bind_assoc {γ : Type} (first : Walk α) (second : α → Walk β)
    (third : β → Walk γ) :
    first >>= second >>= third =
      first >>= fun value => second value >>= third := by
  funext cache
  cases result : (first cache).result with
  | error defect =>
      rw [bind_apply_of_error _ result]
      rw [bind_apply_of_error]
      · rw [bind_apply_of_error _ result]
      · rw [bind_apply_of_error _ result]
  | ok value =>
      have both := bind_apply_of_ok second result
      rw [bind_apply_of_ok _ result]
      cases result' : (second value (first cache).cache).result with
      | error defect =>
          rw [bind_apply_of_error third (by rw [both]; exact result'), both,
            bind_apply_of_error third result']
      | ok value' =>
          rw [bind_apply_of_ok third (by rw [both]; exact result'), both,
            bind_apply_of_ok third result']
          simp

/-- Walks may be regrouped and the walk that does nothing left out. -/
instance : LawfulMonad Walk :=
  LawfulMonad.mk' Walk bind_pure (fun _ _ => rfl) bind_assoc

/-- The walk from an empty cache. -/
def start (walk : Walk α) : Step α :=
  walk .empty

/-- The result of the walk from an empty cache. -/
def result (walk : Walk α) : Except EvalError α :=
  walk.start.result

end Walk

end Rulebook
