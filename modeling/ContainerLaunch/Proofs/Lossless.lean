import ContainerLaunch.Intake
import ContainerLaunch.Proofs.Quotation
import ContainerLaunch.Proofs.Separators
import ContainerLaunch.Request

/-!
# Shown values can be told apart

What the log shows of a value is lossless: equal texts come from equal values, and the end of the
text can be told whatever follows it.  The second half is what lets texts nest, so quoted byte
strings stay lossless inside lists, and lists and byte strings inside records.
-/

namespace ContainerLaunch

variable {α β : Type}

/-- Where the text of a value ends is the same whatever follows it. -/
def Delimits (shown : α → Text) : Prop :=
  ∀ value value' rest rest', shown value ++ rest = shown value' ++ rest' →
    shown value = shown value' ∧ rest = rest'

/-- A value can be recovered from its text, and the text from any longer one it begins. -/
structure Lossless (shown : α → Text) : Prop where
  injective : Function.Injective shown
  delimits : Delimits shown

theorem Delimits.comp {shown : β → Text} (h : Delimits shown) (f : α → β) :
    Delimits fun value ↦ shown (f value) :=
  fun value value' rest rest' heq ↦ h (f value) (f value') rest rest' heq

namespace Lossless

theorem append_inj {shown : α → Text} (h : Lossless shown) {value value' : α}
    {rest rest' : Text} (heq : shown value ++ rest = shown value' ++ rest') :
    value = value' ∧ rest = rest' := by
  obtain ⟨hshown, hrest⟩ := h.delimits value value' rest rest' heq
  exact ⟨h.injective hshown, hrest⟩

/-- It is enough to cancel a text together with what follows it. -/
theorem of_append_inj {shown : α → Text}
    (h : ∀ {value value' : α} {rest rest' : Text},
      shown value ++ rest = shown value' ++ rest' → value = value' ∧ rest = rest') :
    Lossless shown where
  injective value value' heq := by
    have hnothing : shown value ++ [] = shown value' ++ [] := by rw [heq]
    exact (h hnothing).1
  delimits value value' rest rest' heq := by
    obtain ⟨rfl, hrest⟩ := h heq
    exact ⟨rfl, hrest⟩

theorem comp {shown : β → Text} (h : Lossless shown) {f : α → β} (hf : Function.Injective f) :
    Lossless fun value ↦ shown (f value) where
  injective := h.injective.comp hf
  delimits := h.delimits.comp f

end Lossless

/-! ## Byte strings, texts and truth values -/

theorem lossless_write : Lossless Quoted.write :=
  .of_append_inj fun {bytes bytes'} {rest rest'} heq ↦ by
    have hread := congrArg Quoted.read heq
    rw [Quoted.read_write_append, Quoted.read_write_append] at hread
    simpa using hread

theorem lossless_text : Lossless Shown.text :=
  lossless_write.comp Utf8.encode_injective

theorem lossless_truth : Lossless Shown.truth :=
  .of_append_inj fun {value value'} {rest rest'} heq ↦ by
    cases value <;> cases value' <;> simp_all [Shown.truth]

/-! ## Lists -/

/-- After an item there is either a comma or the closing bracket, so the items can be counted. -/
theorem items_append_inj {shown : α → Text} (h : Lossless shown) {items items' : List α}
    {rest rest' : Text}
    (heq : (items.map shown).flatMap (", ".toList ++ ·) ++ ']' :: rest =
      (items'.map shown).flatMap (", ".toList ++ ·) ++ ']' :: rest') :
    items = items' ∧ rest = rest' := by
  induction items generalizing items' with
  | nil =>
    cases items' with
    | nil => simpa using heq
    | cons item' items' => simp at heq
  | cons item items ih =>
    cases items' with
    | nil => simp at heq
    | cons item' items' =>
      simp only [List.map_cons, List.flatMap_cons, List.append_assoc,
        List.append_cancel_left_eq] at heq
      obtain ⟨rfl, hitems⟩ := h.append_inj heq
      obtain ⟨rfl, hrest⟩ := ih hitems
      exact ⟨rfl, hrest⟩

/-- A list of items is lossless when no item can be taken for the closing bracket. -/
theorem lossless_list {shown : α → Text} (h : Lossless shown)
    (hopening : ∀ item, ∃ c text, shown item = c :: text ∧ c ≠ ']') :
    Lossless (Shown.list shown) :=
  .of_append_inj fun {items items'} {rest rest'} heq ↦ by
    simp only [Shown.list, List.append_assoc, List.append_cancel_left_eq] at heq
    cases items with
    | nil =>
      cases items' with
      | nil => simpa [Text.join] using heq
      | cons item' items' =>
        obtain ⟨c, text, hitem, hc⟩ := hopening item'
        rw [List.map_cons, join_cons, hitem] at heq
        simp [Text.join, hc.symm] at heq
    | cons item items =>
      cases items' with
      | nil =>
        obtain ⟨c, text, hitem, hc⟩ := hopening item
        rw [List.map_cons, join_cons, hitem] at heq
        simp [Text.join, hc] at heq
      | cons item' items' =>
        simp only [List.map_cons, join_cons, List.append_assoc] at heq
        obtain ⟨rfl, hitems⟩ := h.append_inj heq
        obtain ⟨rfl, hrest⟩ := items_append_inj h hitems
        exact ⟨rfl, hrest⟩

theorem lossless_byteStrings : Lossless Shown.byteStrings :=
  lossless_list lossless_write fun item ↦ ⟨'"', _, rfl, by decide⟩

/-! ## Records -/

/-- A field of a record: its name, and how its value is shown. -/
abbrev ShownField (α : Type) := String × (α → Text)

def ShownField.shown (value : α) (field : ShownField α) : Text :=
  Shown.field field.1 (field.2 value)

theorem fields_append_inj {fields : List (ShownField α)} (h : ∀ field ∈ fields, Delimits field.2)
    {value value' : α} {rest rest' : Text}
    (heq : (fields.map (ShownField.shown value)).flatMap (", ".toList ++ ·) ++ rest =
      (fields.map (ShownField.shown value')).flatMap (", ".toList ++ ·) ++ rest') :
    (∀ field ∈ fields, field.2 value = field.2 value') ∧ rest = rest' := by
  induction fields with
  | nil => simpa using heq
  | cons field fields ih =>
    simp only [List.map_cons, List.flatMap_cons, ShownField.shown, Shown.field,
      List.append_assoc, List.append_cancel_left_eq] at heq
    obtain ⟨hfield, hfields⟩ := h field List.mem_cons_self _ _ _ _ heq
    obtain ⟨hothers, hrest⟩ := ih (fun other hmem ↦ h other (List.mem_cons_of_mem _ hmem)) hfields
    exact ⟨List.forall_mem_cons.mpr ⟨hfield, hothers⟩, hrest⟩

/-- A record is lossless when its fields determine it and each of them can be told from what
follows it. -/
theorem lossless_record {shown : α → Text} (name : String) (first : ShownField α)
    (fields : List (ShownField α)) (h : ∀ field ∈ first :: fields, Delimits field.2)
    (hext : ∀ value value',
      (∀ field ∈ first :: fields, field.2 value = field.2 value') → value = value')
    (hshown : ∀ value,
      shown value = Shown.record name ((first :: fields).map (ShownField.shown value))) :
    Lossless shown :=
  .of_append_inj fun {value value'} {rest rest'} heq ↦ by
    simp only [hshown, Shown.record, List.map_cons, join_cons, ShownField.shown, Shown.field,
      List.append_assoc, List.append_cancel_left_eq] at heq
    obtain ⟨hfirst, hfields⟩ := h first List.mem_cons_self _ _ _ _ heq
    obtain ⟨hothers, hrest⟩ :=
      fields_append_inj (fun other hmem ↦ h other (List.mem_cons_of_mem _ hmem)) hfields
    exact ⟨hext _ _ (List.forall_mem_cons.mpr ⟨hfirst, hothers⟩), by simpa using hrest⟩

theorem lossless_request : Lossless Request.shown := by
  refine lossless_record "Invocation"
    ("forwarded_args", fun request ↦ Shown.byteStrings request.forwarded)
    [("hostname", fun request ↦ Quoted.write request.host),
      ("exe_path", fun request ↦ Quoted.write request.tool),
      ("container_id", fun request ↦ Quoted.write request.container)] ?_ ?_ fun _ ↦ rfl
  · simp only [List.forall_mem_cons]
    exact ⟨lossless_byteStrings.delimits.comp _, lossless_write.delimits.comp _,
      lossless_write.delimits.comp _, lossless_write.delimits.comp _, by simp⟩
  · intro request request' h
    simp only [List.forall_mem_cons, lossless_byteStrings.injective.eq_iff,
      lossless_write.injective.eq_iff] at h
    obtain ⟨hforwarded, hhost, htool, hcontainer, -⟩ := h
    exact Request.ext hforwarded hhost htool hcontainer

theorem lossless_command : Lossless Command.shown := by
  refine lossless_record "ExecCommand" ("program", fun command ↦ Quoted.write command.program)
    [("args", fun command ↦ Shown.byteStrings command.arguments)] ?_ ?_ fun _ ↦ rfl
  · simp only [List.forall_mem_cons]
    exact ⟨lossless_write.delimits.comp _, lossless_byteStrings.delimits.comp _, by simp⟩
  · intro command command' h
    simp only [List.forall_mem_cons, lossless_byteStrings.injective.eq_iff,
      lossless_write.injective.eq_iff] at h
    obtain ⟨hprogram, harguments, -⟩ := h
    exact Command.ext hprogram harguments

theorem lossless_settings : Lossless Settings.shown := by
  refine lossless_record "Config" ("debug", fun settings ↦ Shown.truth settings.debug)
    [("python", fun settings ↦ Shown.text settings.python),
      ("launcher", fun settings ↦ Shown.text settings.launcher)] ?_ ?_ fun _ ↦ rfl
  · simp only [List.forall_mem_cons]
    exact ⟨lossless_truth.delimits.comp _, lossless_text.delimits.comp _,
      lossless_text.delimits.comp _, by simp⟩
  · intro settings settings' h
    simp only [List.forall_mem_cons, lossless_truth.injective.eq_iff,
      lossless_text.injective.eq_iff] at h
    obtain ⟨hdebug, hpython, hlauncher, -⟩ := h
    exact Settings.ext hdebug hpython hlauncher

theorem lossless_accepted : Lossless Intake.shown := by
  refine lossless_record "Args" ("args", Shown.byteStrings) [] ?_ ?_ fun _ ↦ rfl
  · simp only [List.forall_mem_cons]
    exact ⟨lossless_byteStrings.delimits, by simp⟩
  · intro arguments arguments' h
    simp only [List.forall_mem_cons, lossless_byteStrings.injective.eq_iff] at h
    exact h.1

/-- Quoted byte strings are read back whatever follows them, and whatever the log shows of a value
determines that value. -/
theorem lossless_shown :
    (∀ (bytes : Bytes) (rest : Text),
      Quoted.read (Quoted.write bytes ++ rest) = some (bytes, rest)) ∧
    Lossless Quoted.write ∧ Lossless Shown.byteStrings ∧ Lossless Request.shown ∧
    Lossless Command.shown ∧ Lossless Settings.shown ∧ Lossless Intake.shown :=
  ⟨Quoted.read_write_append, lossless_write, lossless_byteStrings, lossless_request,
    lossless_command, lossless_settings, lossless_accepted⟩

end ContainerLaunch
