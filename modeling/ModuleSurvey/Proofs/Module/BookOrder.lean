import ModuleSurvey.Proofs.Module.Remarks

/-! # Books written in another order

In primary files it hardly matters which of two notes is written first: what the books hold comes in
another order, but it is the same. Only of two sources of one provider the first one counts.

* `foldl_comm` — runs commute up to a relation if their steps do.
* `Books.SameUpToOrder` — books that hold the same, and `Books.SameUpToOrder.writeAll`,
  `Books.sameUpToOrder_writeAll_comm`: notes keep them so, and can be written in either order.
* `Books.source_writeAll_of_unsourced`, `Books.problems_congr` — the sources are all that remarks
  read of the books.
-/

namespace ModuleSurvey

/-! ## Runs -/

section

variable {σ τ : Type} {R : σ → σ → Prop} {f : σ → τ → σ}

theorem foldl_related (kept : ∀ {a b} t, R a b → R (f a t) (f b t)) {a b : σ} (related : R a b)
    (ts : List τ) : R (ts.foldl f a) (ts.foldl f b) := by
  induction ts generalizing a b with
  | nil => exact related
  | cons t ts inductionHypothesis => exact inductionHypothesis (kept t related)

variable (refl : ∀ a, R a a) (trans : ∀ {a b c}, R a b → R b c → R a c)
  (kept : ∀ {a b} t, R a b → R (f a t) (f b t))

include refl trans kept

theorem foldl_step_comm {t : τ} {ts : List τ}
    (commutes : ∀ a, ∀ u ∈ ts, R (f (f a t) u) (f (f a u) t)) (a : σ) :
    R (ts.foldl f (f a t)) (f (ts.foldl f a) t) := by
  induction ts generalizing a with
  | nil => exact refl _
  | cons u ts inductionHypothesis =>
    -- The step first goes behind this one of the run, and then behind the others.
    have behindFirst := foldl_related kept (commutes a u List.mem_cons_self) ts
    exact trans behindFirst (inductionHypothesis
      (fun a v member => commutes a v (List.mem_cons_of_mem _ member)) (f a u))

theorem foldl_comm {first second : List τ}
    (commutes : ∀ a, ∀ t ∈ first, ∀ u ∈ second, R (f (f a t) u) (f (f a u) t)) (a : σ) :
    R (second.foldl f (first.foldl f a)) (first.foldl f (second.foldl f a)) := by
  induction first generalizing a with
  | nil => exact refl _
  | cons t first inductionHypothesis =>
    have behindSecond := foldl_step_comm refl trans kept
      (fun a u member => commutes a t List.mem_cons_self u member) a
    exact trans
      (inductionHypothesis (fun a t member => commutes a t (List.mem_cons_of_mem _ member)) (f a t))
      (foldl_related kept behindSecond first)

end

/-! ## One requirement -/

namespace Note

theorem amend_primary (note : Note) (r : ProviderRequirement) :
    note.amend .primary r =
      { source := note.address?.elim r.source fun address =>
          if r.source = "" then address else r.source
        versionConstraints := r.versionConstraints ++ note.constraint?.toList
        configurationAliases := addNew r.configurationAliases note.configuration? } := by
  rw [← note.configurationAliases_amend .primary]
  obtain ⟨source, constraints, configurations⟩ := r
  cases note with
  | source provider address =>
    by_cases unknown : source = "" <;> simp [amend, address?, constraint?, unknown]
  | configuration provider reference =>
    by_cases listed : reference ∈ configurations <;> simp [amend, address?, constraint?, listed]
  | named | version | aliased => simp [amend, address?, constraint?]

end Note

namespace ProviderRequirement

structure SameUpToOrder (r s : ProviderRequirement) : Prop where
  source : r.source = s.source
  versionConstraints : r.versionConstraints.Perm s.versionConstraints
  configurationAliases : r.configurationAliases.Perm s.configurationAliases

namespace SameUpToOrder

variable {r s t : ProviderRequirement}

theorem refl (r : ProviderRequirement) : r.SameUpToOrder r := ⟨rfl, .refl _, .refl _⟩

theorem trans (first : r.SameUpToOrder s) (second : s.SameUpToOrder t) : r.SameUpToOrder t where
  source := first.source.trans second.source
  versionConstraints := first.versionConstraints.trans second.versionConstraints
  configurationAliases := first.configurationAliases.trans second.configurationAliases

theorem amend (same : r.SameUpToOrder s) (note : Note) :
    (note.amend .primary r).SameUpToOrder (note.amend .primary s) := by
  rw [Note.amend_primary, Note.amend_primary]
  exact ⟨by simp only [same.source], same.versionConstraints.append_right _,
    addNew_perm same.configurationAliases _⟩

end SameUpToOrder

theorem sameUpToOrder_amend_comm {first second : Note}
    (oneSource : first.address? = none ∨ second.address? = none) (r : ProviderRequirement) :
    (second.amend .primary (first.amend .primary r)).SameUpToOrder
      (first.amend .primary (second.amend .primary r)) := by
  simp only [Note.amend_primary]
  refine ⟨?_, ?_, addNew_comm _ _ _⟩
  · rcases oneSource with unsourced | unsourced <;> simp [unsourced]
  · simp only [List.append_assoc]
    exact List.perm_append_comm.append_left _

end ProviderRequirement

/-! ## The books -/

namespace Note

def aliasOf? (note : Note) (provider : String) : Option String :=
  note.reference?.bind fun r => if r.name = provider then some r.aliasName else none

/-- Two notes of which one at most gives the source of a provider. -/
def Independent (first second : Note) : Prop :=
  first.provider = second.provider → first.address? = none ∨ second.address? = none

end Note

namespace Books

variable {b c d : Books}

structure SameUpToOrder (b c : Books) : Prop where
  requires : ∀ provider, b.Requires provider ↔ c.Requires provider
  requirement : ∀ provider, (b.requirement provider).SameUpToOrder (c.requirement provider)
  aliased : ∀ provider, b.aliases.contains provider = true ↔ c.aliases.contains provider = true
  known : ∀ provider, (b.aliases.known provider).Perm (c.aliases.known provider)

namespace SameUpToOrder

theorem refl (b : Books) : b.SameUpToOrder b :=
  ⟨fun _ => .rfl, fun _ => .refl _, fun _ => .rfl, fun _ => .refl _⟩

theorem trans (first : b.SameUpToOrder c) (second : c.SameUpToOrder d) : b.SameUpToOrder d where
  requires provider := (first.requires provider).trans (second.requires provider)
  requirement provider := (first.requirement provider).trans (second.requirement provider)
  aliased provider := (first.aliased provider).trans (second.aliased provider)
  known provider := (first.known provider).trans (second.known provider)

end SameUpToOrder

variable {role : FileRole}

theorem requirement_write (b : Books) (note : Note) (provider : String) :
    (b.write role note).requirement provider =
      if note.provider = provider then note.amend role (b.requirement provider)
      else b.requirement provider := by
  simp only [requirement, get?_write]
  by_cases same : note.provider = provider
  · subst same
    simp
  · simp [same, Ne.symm same]

theorem known_write (b : Books) (note : Note) (provider : String) :
    (b.write role note).aliases.known provider =
      addNew (b.aliases.known provider) (note.aliasOf? provider) := by
  unfold write Note.aliasOf?
  cases note.reference? with
  | none => rfl
  | some r => exact ProviderAliases.known_add b.aliases r.name r.aliasName provider

theorem aliased_write (b : Books) (note : Note) (provider : String) :
    (b.write role note).aliases.contains provider = true ↔
      (∃ r, note.reference? = some r ∧ provider = r.name) ∨ b.aliases.contains provider = true := by
  unfold write
  cases note.reference? with
  | none => simp
  | some r => simp [ProviderAliases.contains_add]

theorem SameUpToOrder.write (same : b.SameUpToOrder c) (note : Note) :
    (b.write .primary note).SameUpToOrder (c.write .primary note) where
  requires provider := by rw [requires_write, requires_write, same.requires]
  requirement provider := by
    rw [requirement_write, requirement_write]
    split
    case isTrue _ => exact (same.requirement provider).amend note
    case isFalse _ => exact same.requirement provider
  aliased provider := by rw [aliased_write, aliased_write, same.aliased]
  known provider := by
    rw [known_write, known_write]
    exact addNew_perm (same.known provider) _

theorem sameUpToOrder_write_comm {first second : Note} (independent : first.Independent second)
    (b : Books) :
    ((b.write .primary first).write .primary second).SameUpToOrder
      ((b.write .primary second).write .primary first) where
  requires provider := by
    simp only [requires_write]
    exact or_left_comm
  requirement provider := by
    simp only [requirement_write]
    by_cases ofFirst : first.provider = provider <;> by_cases ofSecond : second.provider = provider
    · -- Only notes about the same provider meet in one requirement.
      have oneSource := independent (ofFirst.trans ofSecond.symm)
      simpa [ofFirst, ofSecond] using
        ProviderRequirement.sameUpToOrder_amend_comm oneSource (b.requirement provider)
    · simpa [ofFirst, ofSecond] using ProviderRequirement.SameUpToOrder.refl _
    · simpa [ofFirst, ofSecond] using ProviderRequirement.SameUpToOrder.refl _
    · simpa [ofFirst, ofSecond] using ProviderRequirement.SameUpToOrder.refl _
  aliased provider := by
    simp only [aliased_write]
    exact or_left_comm
  known provider := by
    simp only [known_write]
    exact addNew_comm _ _ _

theorem SameUpToOrder.writeAll (same : b.SameUpToOrder c) (notes : List Note) :
    (b.writeAll .primary notes).SameUpToOrder (c.writeAll .primary notes) :=
  foldl_related (fun note same => same.write note) same notes

theorem sameUpToOrder_writeAll_comm {first second : List Note}
    (independent : ∀ note ∈ first, ∀ other ∈ second, note.Independent other) (b : Books) :
    ((b.writeAll .primary first).writeAll .primary second).SameUpToOrder
      ((b.writeAll .primary second).writeAll .primary first) :=
  foldl_comm SameUpToOrder.refl SameUpToOrder.trans (fun note same => same.write note)
    (fun b note member other among => sameUpToOrder_write_comm (independent note member other among) b)
    b

/-! ## Sources -/

def Unsourced (provider : String) (notes : List Note) : Prop :=
  ∀ note ∈ notes, note.provider = provider → note.address? = none

theorem source_write (b : Books) (note : Note) (provider : String) :
    (b.write .primary note).source provider =
      if note.provider = provider then
        note.address?.elim (b.source provider) fun address =>
          if b.source provider = "" then address else b.source provider
      else b.source provider := by
  unfold source
  rw [requirement_write]
  split
  case isTrue _ => rw [Note.amend_primary]
  case isFalse _ => rfl

theorem source_writeAll_of_unsourced {provider : String} {notes : List Note}
    (unsourced : Unsourced provider notes) (b : Books) :
    (b.writeAll .primary notes).source provider = b.source provider := by
  induction notes generalizing b with
  | nil => rfl
  | cons note notes inductionHypothesis =>
    have kept : (b.write .primary note).source provider = b.source provider := by
      rw [source_write]
      split
      case isTrue about => rw [unsourced note List.mem_cons_self about]; rfl
      case isFalse _ => rfl
    rw [writeAll_cons, inductionHypothesis fun other member =>
      unsourced other (List.mem_cons_of_mem _ member), kept]

/-- The problems that remarks lead to depend on the sources of those providers alone of which they
give a source. -/
theorem problems_congr {remarks : List Remark} {b c : Books}
    (same : ∀ provider, ¬ Unsourced provider (notesOf remarks) → b.source provider = c.source provider) :
    b.problems .primary remarks = c.problems .primary remarks := by
  induction remarks generalizing b c with
  | nil => rfl
  | cons remark remarks inductionHypothesis =>
    cases remark with
    | problem problem =>
      rw [problems, problems, inductionHypothesis same]
    | note note =>
      have sameConflict : b.conflict? .primary note = c.conflict? .primary note := by
        cases note with
        | source provider address =>
          have sourced : ¬ Unsourced provider (notesOf (.note (.source provider address) :: remarks)) := by
            intro unsourced
            cases unsourced (.source provider address) (by simp) rfl
          simp only [conflict?, same provider sourced]
        | named | version | configuration | aliased => rfl
      have sameLater : (b.write .primary note).problems .primary remarks =
          (c.write .primary note).problems .primary remarks := by
        apply inductionHypothesis
        intro provider sourced
        have sourcedBefore : ¬ Unsourced provider (notesOf (.note note :: remarks)) := by
          intro unsourced
          exact sourced fun other member => unsourced other (by simp [member])
        rw [source_write, source_write, same provider sourcedBefore]
      rw [problems, problems, sameConflict, sameLater]

end Books

end ModuleSurvey
