import Rulebook.Proofs.Collected

/-!
# When a profile can be collected

The constructor of a rule walks through the tests of the rule and stops at the
first defect.  It gets to the end exactly when every operator is valid and no
fact is asked for with two kinds (`Profile.ofLeaves_accepts_iff`), and the depth
that it has recorded by then is the least bound of the depths of all tokens
(`Profile.ofLeaves_depth_le_iff`).
-/

namespace Rulebook

/-- No fact is asked for with two kinds. -/
def OneKind (asked : List (String × ValueKind)) : Prop :=
  ∀ name first second,
    (name, first) ∈ asked → (name, second) ∈ asked → first = second

theorem OneKind.mono {asked more : List (String × ValueKind)}
    (oneKind : OneKind more) (subset : asked ⊆ more) : OneKind asked :=
  fun name first second one other =>
    oneKind name first second (subset one) (subset other)

theorem oneKind_congr {asked other : List (String × ValueKind)}
    (same : ∀ entry, entry ∈ asked ↔ entry ∈ other) :
    OneKind asked ↔ OneKind other :=
  ⟨fun oneKind => oneKind.mono fun entry => (same entry).mpr,
    fun oneKind => oneKind.mono fun entry => (same entry).mp⟩

namespace Requirements

variable {before after : Requirements}

/-- The entries of requirements are one for each name. -/
theorem oneKind_entries (requirements : Requirements) :
    OneKind requirements.entries := by
  intro name first second one other
  rw [← NameMap.get?_eq_some_iff] at one other
  exact Option.some.inj (one.symm.trans other)

theorem mem_record {name : String} {kind : ValueKind}
    (accepted : before.record name kind = .ok after)
    (entry : String × ValueKind) :
    entry ∈ after.entries ↔ entry ∈ before.entries ∨ entry = (name, kind) := by
  rw [← NameMap.get?_eq_some_iff, ← NameMap.get?_eq_some_iff]
  exact record_get? accepted

theorem mem_recordAll {requests : List (String × ValueKind)}
    (accepted : before.recordAll requests = .ok after)
    (entry : String × ValueKind) :
    entry ∈ after.entries ↔ entry ∈ before.entries ++ requests := by
  rw [List.mem_append, ← NameMap.get?_eq_some_iff, ← NameMap.get?_eq_some_iff]
  exact recordAll_get? accepted

theorem record_accepts {name : String} {kind : ValueKind}
    (free : ∀ first, (name, first) ∈ before.entries → first = kind) :
    ∃ after, before.record name kind = .ok after := by
  unfold record
  cases known : before.get? name with
  | none => exact ⟨_, rfl⟩
  | some first =>
      rw [free first (before.get?_eq_some_iff.mp known)]
      exact ⟨before, if_pos rfl⟩

/-- Requests are recorded unless one of them clashes with an earlier one. -/
theorem recordAll_accepts_iff {requests : List (String × ValueKind)} :
    (∃ after, before.recordAll requests = .ok after) ↔
      OneKind (before.entries ++ requests) := by
  constructor
  · rintro ⟨after, accepted⟩
    rw [← oneKind_congr (mem_recordAll accepted)]
    exact after.oneKind_entries
  · intro oneKind
    induction requests generalizing before with
    | nil => exact ⟨before, rfl⟩
    | cons request requests ih =>
        obtain ⟨name, kind⟩ := request
        obtain ⟨between, recorded⟩ : ∃ between,
            before.record name kind = .ok between :=
          record_accepts fun first member =>
            oneKind name first kind (by simp [member]) (by simp)
        have rest : OneKind (between.entries ++ requests) := by
          refine (oneKind_congr fun entry => ?_).mp oneKind
          rw [List.mem_append, List.mem_append, mem_record recorded,
            List.mem_cons, or_assoc]
        obtain ⟨after, rest⟩ := ih rest
        refine ⟨after, ?_⟩
        unfold recordAll at rest ⊢
        rw [List.foldlM_cons, recorded]
        exact rest

end Requirements

namespace Profile

variable {before after : Profile} {leaves : List Expression}

theorem addLeaf_eq_ok_iff {leaf : Expression} :
    before.addLeaf leaf = .ok after ↔
      leaf.operator.validate = .ok () ∧
        ∃ requirements,
          before.requirements.recordAll leaf.token.requests =
            .ok requirements ∧
          after = ⟨requirements, max before.depth (leaf.token.depth + 1)⟩ := by
  unfold addLeaf
  simp only [bind_eq_ok_iff, pure_eq_ok_iff]
  exact ⟨fun ⟨_, valid, rest⟩ => ⟨valid, rest⟩,
    fun ⟨valid, rest⟩ => ⟨(), valid, rest⟩⟩

theorem foldlM_addLeaf_accepts_iff :
    (∃ after, leaves.foldlM addLeaf before = .ok after) ↔
      (∀ leaf ∈ leaves, leaf.operator.validate = .ok ()) ∧
        OneKind (before.requirements.entries ++
          leaves.flatMap fun leaf => leaf.token.requests) := by
  induction leaves generalizing before with
  | nil =>
      simp only [List.foldlM_nil, List.not_mem_nil, false_implies,
        implies_true, List.flatMap_nil, List.append_nil, true_and]
      exact ⟨fun _ => before.requirements.oneKind_entries,
        fun _ => ⟨before, rfl⟩⟩
  | cons leaf leaves ih =>
      simp only [List.foldlM_cons, bind_eq_ok_iff, List.forall_mem_cons,
        List.flatMap_cons]
      rw [← List.append_assoc]
      -- Once the first test is recorded, the profile holds its requests.
      have later {between : Profile}
          (accepted : before.addLeaf leaf = .ok between) :
          OneKind (between.requirements.entries ++
              leaves.flatMap fun leaf => leaf.token.requests) ↔
            OneKind (before.requirements.entries ++ leaf.token.requests ++
              leaves.flatMap fun leaf => leaf.token.requests) := by
        obtain ⟨_, requirements, recorded, rfl⟩ := addLeaf_eq_ok_iff.mp accepted
        refine oneKind_congr fun entry => ?_
        rw [List.mem_append, Requirements.mem_recordAll recorded,
          List.mem_append (s := before.requirements.entries ++ _)]
      constructor
      · rintro ⟨after, between, accepted, rest⟩
        obtain ⟨valid, oneKind⟩ := ih.mp ⟨after, rest⟩
        exact ⟨⟨(addLeaf_eq_ok_iff.mp accepted).1, valid⟩,
          (later accepted).mp oneKind⟩
      · rintro ⟨⟨valid, others⟩, oneKind⟩
        obtain ⟨requirements, recorded⟩ := Requirements.recordAll_accepts_iff.mpr
          (oneKind.mono (List.subset_append_left _ _))
        have accepted := addLeaf_eq_ok_iff.mpr
          ⟨valid, requirements, recorded, rfl⟩
        obtain ⟨after, rest⟩ := ih.mpr ⟨others, (later accepted).mpr oneKind⟩
        exact ⟨after, _, accepted, rest⟩

/-- A profile can be collected exactly when all operators are valid and no fact
is asked for with two kinds. -/
theorem ofLeaves_accepts_iff :
    (∃ profile, ofLeaves leaves = .ok profile) ↔
      (∀ leaf ∈ leaves, leaf.operator.validate = .ok ()) ∧
        OneKind (leaves.flatMap fun leaf => leaf.token.requests) :=
  foldlM_addLeaf_accepts_iff

theorem foldlM_addLeaf_depth_le_iff {bound : Nat}
    (accepted : leaves.foldlM addLeaf before = .ok after) :
    after.depth ≤ bound ↔
      before.depth ≤ bound ∧ ∀ leaf ∈ leaves, leaf.token.depth < bound := by
  induction leaves generalizing before with
  | nil =>
      cases accepted
      simp
  | cons leaf leaves ih =>
      rw [List.foldlM_cons, bind_eq_ok_iff] at accepted
      obtain ⟨between, first, rest⟩ := accepted
      obtain ⟨_, _, _, rfl⟩ := addLeaf_eq_ok_iff.mp first
      rw [ih rest, List.forall_mem_cons, Nat.max_le, and_assoc,
        Nat.lt_iff_add_one_le]

/-- The depth of a profile is one more than the greatest depth of a token. -/
theorem ofLeaves_depth_le_iff {profile : Profile} {bound : Nat}
    (accepted : ofLeaves leaves = .ok profile) :
    profile.depth ≤ bound ↔
      1 ≤ bound ∧ ∀ leaf ∈ leaves, leaf.token.depth < bound :=
  foldlM_addLeaf_depth_le_iff accepted

end Profile

end Rulebook
