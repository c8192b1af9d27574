import ModuleSurvey.Proofs.SortedMap
import ModuleSurvey.Yaml.NodeReader
import Mathlib.Data.List.Basic

/-! # What a record is read from

A record that is read has each of its fields from the entry of the field's name, and where there is
no such entry the field is that of the defaults. Nothing else in the mapping counts for the field.

* `Node.valueUnder?` — the value under a name in a mapping.
* `Tells` — a value that is read from a node, or the fallback where there is none.
* `FieldReader.Reads`, `FieldReader.Keeps` — fields that set a part of the record, or leave it
  alone.
* `tells_of_readRecord` — a part of a record, and the entry that it is from.
* `readFields_cons_set`, `readRecord_mapping` — reading a record entry by entry.
-/

namespace ModuleSurvey

theorem bind_eq_ok_iff {ε α β : Type} {x : Except ε α} {f : α → Except ε β} {b : β} :
    (x >>= f) = .ok b ↔ ∃ a, x = .ok a ∧ f a = .ok b := by
  cases x with
  | error e => simp [bind, Except.bind]
  | ok a => simp [bind, Except.bind]

namespace Yaml

/-! ## Entries -/

def Node.text? (n : Node) : Option String :=
  match n.target with
  | .scalar _ _ _ text => some text
  | _ => none

def valueOf? (name : String) (entries : List (Node × Node)) : Option Node :=
  (entries.find? fun e => e.1.text? = some name).map (·.2)

def Node.valueUnder? (n : Node) (name : String) : Option Node :=
  match n.target with
  | .mapping _ _ entries => valueOf? name entries
  | _ => none

variable {α β : Type} {wanted path name text : String} {key value n : Node}
  {entries : List (Node × Node)}

theorem valueOf?_cons_self (named : key.text? = some name) :
    valueOf? name ((key, value) :: entries) = some value := by
  simp [valueOf?, named]

theorem valueOf?_cons_of_ne (named : key.text? = some text) (other : text ≠ name) :
    valueOf? name ((key, value) :: entries) = valueOf? name entries := by
  simp [valueOf?, named, other]

theorem text?_of_readText (read : readText wanted path n = .ok text) : n.text? = some text := by
  unfold readText at read
  unfold Node.text?
  cases form : n.target with
  | scalar mark tag style other =>
    rw [form] at read
    rw [Except.ok.inj read]
  | sequence | mapping | reference =>
    rw [form] at read
    cases read

theorem readText_of_text? (isText : n.text? = some text) : readText wanted path n = .ok text := by
  unfold Node.text? at isText
  unfold readText
  cases form : n.target with
  | scalar mark tag style other =>
    rw [form] at isText
    exact congrArg Except.ok (Option.some.inj isText)
  | sequence | mapping | reference =>
    rw [form] at isText
    cases isText

theorem readItems_of_text? {nodes : List Node} {texts : List String}
    (areTexts : nodes.map Node.text? = texts.map some) (index : Nat) :
    readItems (readText wanted) path index nodes = .ok texts := by
  induction nodes generalizing texts index with
  | nil =>
    obtain rfl : texts = [] := by simpa using areTexts.symm
    rfl
  | cons n nodes inductionHypothesis =>
    obtain ⟨text, texts, rfl, isText, areTexts⟩ := List.map_eq_cons_iff.1 areTexts.symm
    rw [readItems, readText_of_text? isText.symm]
    simp [bind, Except.bind, inductionHypothesis areTexts.symm, pure, Except.pure]

/-! ## Values -/

/-- The value is what the node tells, or the fallback where there is no node. -/
def Tells (read : NodeReader β) (fallback : β) : Option Node → β → Prop
  | none, b => b = fallback
  | some n, b => ∃ path, read path n = .ok b

variable {fields : List (String × FieldReader α)} {get : α → β} {read : NodeReader β} {a b : α}

namespace FieldReader

/-- The field's reader sets a part of the record to what another reader reads. -/
def Reads (field : FieldReader α) (read : NodeReader β) (get : α → β) : Prop :=
  ∀ path n a b, field path n a = .ok b → read path n = .ok (get b)

/-- The field's reader leaves a part of the record alone. -/
def Keeps (field : FieldReader α) (get : α → β) : Prop :=
  ∀ path n a b, field path n a = .ok b → get b = get a

theorem reads_set {set : α → β → α} (get_set : ∀ a v, get (set a v) = v) :
    Reads (fun path n a => do return set a (← read path n)) read get := by
  intro path n a b done
  obtain ⟨v, isRead, same⟩ := bind_eq_ok_iff.1 done
  rw [isRead, ← Except.ok.inj same, get_set]

theorem keeps_set {γ : Type} {other : NodeReader γ} {set : α → γ → α}
    (get_set : ∀ a v, get (set a v) = get a) :
    Keeps (fun path n a => do return set a (← other path n)) get := by
  intro path n a b done
  obtain ⟨v, -, same⟩ := bind_eq_ok_iff.1 done
  rw [← Except.ok.inj same, get_set]

end FieldReader

/-! ## Records -/

theorem readFields_cons_set {set : α → β → α} {v : β} {seen : List String}
    (named : key.text? = some name) (isField : SortedMap.lookupEntry name fields =
      some fun path n a => do return set a (← read path n))
    (fresh : name ∉ seen) (isRead : read (entryPath path key) value = .ok v)
    (others : readFields fields path (name :: seen) entries (set a v) = .ok b) :
    readFields fields path seen ((key, value) :: entries) a = .ok b := by
  rw [readFields, readText_of_text? named]
  simp [bind, Except.bind, isField, fresh, isRead, pure, Except.pure, others]

theorem readRecord_mapping {default : α} {mark : Mark} {tag : Option String}
    (done : readFields fields path [] entries default = .ok a) :
    readRecord wanted default fields path (.mapping mark tag entries) = .ok a := by
  simp [readRecord, Node.target, done, placed]

theorem valueOf?_of_seen {seen : List String} (isField : (SortedMap.lookupEntry name fields).isSome)
    (again : name ∈ seen) (done : readFields fields path seen entries a = .ok b) :
    valueOf? name entries = none := by
  induction entries generalizing seen a with
  | nil => rfl
  | cons entry entries inductionHypothesis =>
    obtain ⟨key, value⟩ := entry
    obtain ⟨text, named, done⟩ := bind_eq_ok_iff.1 done
    have isText := text?_of_readText named
    cases found : SortedMap.lookupEntry text fields with
    | none =>
      rw [found] at done
      have other : text ≠ name := by
        rintro rfl
        simp [found] at isField
      rw [valueOf?_cons_of_ne isText other]
      exact inductionHypothesis again done
    | some field =>
      simp only [found] at done
      split at done
      · cases done
      case isFalse fresh =>
        have other : text ≠ name := by
          rintro rfl
          simp [again] at fresh
        obtain ⟨c, -, done⟩ := bind_eq_ok_iff.1 done
        rw [valueOf?_cons_of_ne isText other]
        exact inductionHypothesis (List.mem_cons_of_mem _ again) done

/-- A part of a record that one field sets and the other fields leave alone is what the field's
entry tells, or as it was. -/
theorem tells_of_readFields {field : FieldReader α} {seen : List String}
    (isField : SortedMap.lookupEntry name fields = some field) (reads : field.Reads read get)
    (others : ∀ e ∈ fields, e.1 ≠ name → e.2.Keeps get)
    (done : readFields fields path seen entries a = .ok b) :
    Tells read (get a) (valueOf? name entries) (get b) := by
  induction entries generalizing seen a with
  | nil => rw [Except.ok.inj done]; rfl
  | cons entry entries inductionHypothesis =>
    obtain ⟨key, value⟩ := entry
    obtain ⟨text, named, done⟩ := bind_eq_ok_iff.1 done
    have isText := text?_of_readText named
    cases found : SortedMap.lookupEntry text fields with
    | none =>
      rw [found] at done
      have other : text ≠ name := by
        rintro rfl
        simp [found] at isField
      rw [valueOf?_cons_of_ne isText other]
      exact inductionHypothesis done
    | some entryField =>
      simp only [found] at done
      split at done
      · cases done
      obtain ⟨c, set, doneBehind⟩ := bind_eq_ok_iff.1 done
      have rest := inductionHypothesis doneBehind
      by_cases same : text = name
      · -- The field is set here, and no later entry sets it once more.
        subst same
        obtain rfl : field = entryField := Option.some.inj (isField.symm.trans found)
        rw [valueOf?_of_seen (isField ▸ rfl) List.mem_cons_self doneBehind] at rest
        rw [valueOf?_cons_self isText]
        exact ⟨_, (reads _ _ _ _ set).trans (congrArg _ rest.symm)⟩
      · have kept := others _ (SortedMap.mem_of_lookupEntry found) same _ _ _ _ set
        rwa [valueOf?_cons_of_ne isText same, ← kept]

theorem tells_of_readRecord (get : α → β) {default : α} {field : FieldReader α}
    (isField : SortedMap.lookupEntry name fields = some field) (reads : field.Reads read get)
    (others : ∀ e ∈ fields, e.1 ≠ name → e.2.Keeps get)
    (done : readRecord wanted default fields path n = .ok b) :
    Tells read (get default) (n.valueUnder? name) (get b) := by
  have of_empty {n : Node} {wanted : String}
      (done : (if n.isEmpty then .ok default else refuse wanted path n : Except Misfit α) = .ok b) :
      b = default := by
    split at done
    · exact (Except.ok.inj done).symm
    · cases done
  unfold readRecord at done
  unfold Node.valueUnder?
  cases form : n.target with
  | mapping mark tag entries =>
    rw [form] at done
    dsimp only at done
    cases outcome : readFields fields path [] entries default with
    | error fault => rw [outcome] at done; cases done
    | ok c =>
      rw [outcome] at done
      obtain rfl : c = b := Except.ok.inj done
      exact tells_of_readFields isField reads others outcome
  | scalar | sequence | reference =>
    rw [form] at done
    exact congrArg get (of_empty done)

theorem tells_of_readRecord_set (get : α → β) {default : α} {set : α → β → α}
    (done : readRecord wanted default fields path n = .ok b)
    (isField : SortedMap.lookupEntry name fields =
      some fun path n a => do return set a (← read path n))
    (get_set : ∀ a v, get (set a v) = v)
    (others : fields.Forall fun e => e.1 = name ∨ e.2.Keeps get) :
    Tells read (get default) (n.valueUnder? name) (get b) :=
  tells_of_readRecord get isField (FieldReader.reads_set get_set)
    (fun e member other => (List.forall_iff_forall_mem.1 others e member).resolve_left other) done

theorem Tells.below {γ : Type} {inner : NodeReader γ} (part : β → γ) {v : β}
    (below : ∀ path n v, read path n = .ok v →
      Tells inner (part fallback) (Node.valueUnder? n name) (part v))
    (told : Tells read fallback node v) :
    Tells inner (part fallback) (node.bind (·.valueUnder? name)) (part v) := by
  cases node with
  | none => exact congrArg part told
  | some n =>
    obtain ⟨path, isRead⟩ := told
    exact below path n v isRead

end Yaml

end ModuleSurvey
