import LintBridge.Report.Decode
import Mathlib.Data.List.Forall2

/-!
What decoding accepts, check by check. `checkDiagnostic_eq_ok_iff` and `decode_eq_ok_iff` say of a
diagnostic and of a report which documents they come from: one that holds all its parts and, of a
report, diagnostics only. A single part that is not as it should be leaves no report.
-/

namespace LintBridge

theorem Checked.itemsFrom_eq_ok {Fault α β : Type} {check : α → Checked Fault β} {start : Nat}
    {as : List α} {bs : List β} :
    itemsFrom check start as = .ok bs ↔ List.Forall₂ (fun a b => check a = .ok b) as bs := by
  induction as generalizing start bs with
  | nil => cases bs <;> simp [itemsFrom]
  | cons a as ih =>
    rw [itemsFrom, map_eq_ok]
    constructor
    · rintro ⟨⟨b, rest⟩, hboth, rfl⟩
      obtain ⟨hb, hrest⟩ := both_eq_ok.mp hboth
      exact .cons (under_eq_ok.mp hb) (ih.mp hrest)
    · rintro (_ | ⟨hb, hrest⟩)
      exact ⟨(_, _), both_eq_ok.mpr ⟨under_eq_ok.mpr hb, ih.mpr hrest⟩, rfl⟩

/-- All items of a list pass a check, or the list does not. -/
theorem Checked.items_eq_ok {Fault α β : Type} {check : α → Checked Fault β} {as : List α}
    {bs : List β} :
    items check as = .ok bs ↔ List.Forall₂ (fun a b => check a = .ok b) as bs :=
  itemsFrom_eq_ok

namespace Report

/-- The entry of a report that makes a diagnostic: an object with three texts and a location, which
is an object with a span of two documents that stand for the ends of the diagnostic's span. -/
def IsEntry (entry : Json) (d : Diagnostic) : Prop :=
  ∃ (members location : List (String × Json)) (first second : Json),
    entry = .obj members ∧
      (Json.lookup "category" members).bind Json.text? = some d.category ∧
      (Json.lookup "severity" members).bind Json.text? = some d.label ∧
      (Json.lookup "description" members).bind Json.text? = some d.description ∧
      Json.lookup "location" members = some (.obj location) ∧
      Json.lookup "span" location = some (.arr [first, second]) ∧
      wholeOf first = .ok (d.span.start : Int) ∧ wholeOf second = .ok (d.span.stop : Int)

theorem members_eq_ok {shape : Shape} {document : Json} {values : List (String × Json)} :
    members shape document = .ok values ↔ document = .obj values := by
  cases document <;> simp [members, Checked.refuse]

theorem field_eq_ok {α : Type} {name : String} {check : Json → Checked Fault α}
    {values : List (String × Json)} {a : α} :
    field name check values = .ok a ↔ ∃ v, Json.lookup name values = some v ∧ check v = .ok a := by
  rw [field, Checked.under_eq_ok]
  cases Json.lookup name values <;> simp [Checked.refuse]

theorem checkText_eq_ok {document : Json} {text : String} :
    checkText document = .ok text ↔ document.text? = some text := by
  cases document <;> simp [checkText, Json.text?, Checked.refuse]

theorem field_checkText_eq_ok {name text : String} {values : List (String × Json)} :
    field name checkText values = .ok text ↔
      (Json.lookup name values).bind Json.text? = some text := by
  simp only [field_eq_ok, checkText_eq_ok, Option.bind_eq_some_iff]

theorem offsetOf_eq_ok {document : Json} {n : Nat} :
    offsetOf document = .ok n ↔ wholeOf document = .ok (n : Int) := by
  unfold offsetOf
  cases hw : wholeOf document with
  | error fault => simp
  | ok m =>
    by_cases hneg : m < 0
    · simp only [hneg, if_true, reduceCtorEq, Except.ok.injEq, false_iff]
      omega
    · simp only [hneg, if_false, Except.ok.injEq]
      omega

theorem checkOffset_eq_ok {document : Json} {n : Nat} :
    checkOffset document = .ok n ↔ wholeOf document = .ok (n : Int) := by
  rw [← offsetOf_eq_ok, checkOffset]
  cases offsetOf document <;> simp [Checked.refuse]

theorem pairItem_eq_ok {index n : Nat} {item : Option Json} :
    pairItem index item = .ok n ↔ ∃ v, item = some v ∧ wholeOf v = .ok (n : Int) := by
  cases item <;> simp [pairItem, Checked.under_eq_ok, Checked.refuse, checkOffset_eq_ok]

/-- A span has two items, no more and no less. -/
theorem checkOffsets_eq_ok {document : Json} {ends : Nat × Nat} :
    checkOffsets document = .ok ends ↔ ∃ first second, document = .arr [first, second] ∧
      wholeOf first = .ok (ends.1 : Int) ∧ wholeOf second = .ok (ends.2 : Int) := by
  obtain ⟨start, stop⟩ := ends
  cases document with
  | arr items =>
    match items with
    | [] => simp [checkOffsets, Checked.both_eq_ok, pairItem_eq_ok]
    | [first] => simp [checkOffsets, Checked.both_eq_ok, pairItem_eq_ok]
    | [first, second] => simp [checkOffsets, Checked.both_eq_ok, pairItem_eq_ok]
    | first :: second :: third :: more => simp [checkOffsets, Checked.refuse]
  | _ => simp [checkOffsets, Checked.refuse]

theorem checkSpan_eq_ok {ends : Nat × Nat} {span : Span} :
    checkSpan ends = .ok span ↔ ends = (span.start, span.stop) := by
  obtain ⟨start, stop⟩ := ends
  obtain ⟨start', stop', hle⟩ := span
  unfold checkSpan
  split
  · simp
  · next hlt =>
    simp only [Checked.refuse, reduceCtorEq, Prod.mk.injEq, false_iff]
    rintro ⟨rfl, rfl⟩
    exact hlt hle

theorem checkLocation_eq_ok {document : Json} {span : Span} :
    checkLocation document = .ok span ↔ ∃ location first second, document = .obj location ∧
      Json.lookup "span" location = some (.arr [first, second]) ∧
      wholeOf first = .ok (span.start : Int) ∧ wholeOf second = .ok (span.stop : Int) := by
  simp only [checkLocation, Checked.andThen_eq_ok, members_eq_ok, field_eq_ok, checkOffsets_eq_ok,
    checkSpan_eq_ok]
  constructor
  · rintro ⟨_, ⟨location, rfl, v, hspan, first, second, rfl, hfirst, hsecond⟩, rfl⟩
    exact ⟨location, first, second, rfl, hspan, hfirst, hsecond⟩
  · rintro ⟨location, first, second, rfl, hspan, hfirst, hsecond⟩
    exact ⟨_, ⟨location, rfl, _, hspan, first, second, rfl, hfirst, hsecond⟩, rfl⟩

/-- The check of a diagnostic accepts the entries that make one, and gives what they make. -/
theorem checkDiagnostic_eq_ok_iff {entry : Json} {d : Diagnostic} :
    checkDiagnostic entry = .ok d ↔ IsEntry entry d := by
  simp only [checkDiagnostic, Checked.andThen_eq_ok, Checked.map_eq_ok, members_eq_ok]
  constructor
  · rintro ⟨members, rfl, ⟨category, label, description, span⟩, hparts, rfl⟩
    obtain ⟨hcategory, hparts⟩ := Checked.both_eq_ok.mp hparts
    obtain ⟨hlabel, hparts⟩ := Checked.both_eq_ok.mp hparts
    obtain ⟨hdescription, hlocation⟩ := Checked.both_eq_ok.mp hparts
    obtain ⟨v, hv, hlocation⟩ := field_eq_ok.mp hlocation
    obtain ⟨location, first, second, rfl, hspan, hends⟩ := checkLocation_eq_ok.mp hlocation
    exact ⟨members, location, first, second, rfl, field_checkText_eq_ok.mp hcategory,
      field_checkText_eq_ok.mp hlabel, field_checkText_eq_ok.mp hdescription, hv, hspan, hends⟩
  · rintro ⟨members, location, first, second, rfl, hcategory, hlabel, hdescription, hlocation,
      hspan, hends⟩
    have hchecked : checkLocation (.obj location) = .ok d.span :=
      checkLocation_eq_ok.mpr ⟨location, first, second, rfl, hspan, hends⟩
    refine ⟨members, rfl, (d.category, d.label, d.description, d.span), ?_, rfl⟩
    rw [Checked.both_eq_ok, Checked.both_eq_ok, Checked.both_eq_ok]
    exact ⟨field_checkText_eq_ok.mpr hcategory, field_checkText_eq_ok.mpr hlabel,
      field_checkText_eq_ok.mpr hdescription, field_eq_ok.mpr ⟨_, hlocation, hchecked⟩⟩

/-- The entries of the report that a document holds. -/
def HasEntries (document : Json) (entries : List Json) : Prop :=
  ∃ members, document = .obj members ∧ Json.lookup "diagnostics" members = some (.arr entries)

/-- A document holds a report if each of its entries makes a diagnostic, and the report holds what
they make. -/
theorem decode_eq_ok_iff {document : Json} {r : Report} :
    decode document = .ok r ↔
      ∃ entries, HasEntries document entries ∧ List.Forall₂ IsEntry entries r.diagnostics := by
  have hitems : ∀ {v : Json} {diagnostics : List Diagnostic},
      checkDiagnostics v = .ok diagnostics ↔
        ∃ entries, v = .arr entries ∧ List.Forall₂ IsEntry entries diagnostics := by
    intro v diagnostics
    cases v <;>
      simp [checkDiagnostics, Checked.refuse, Checked.items_eq_ok, checkDiagnostic_eq_ok_iff]
  simp only [decode, Checked.map_eq_ok, Checked.andThen_eq_ok, members_eq_ok, field_eq_ok, hitems]
  constructor
  · rintro ⟨diagnostics, ⟨members, rfl, v, hv, entries, rfl, hall⟩, rfl⟩
    exact ⟨entries, ⟨members, rfl, hv⟩, hall⟩
  · rintro ⟨entries, ⟨members, rfl, hv⟩, hall⟩
    exact ⟨r.diagnostics, ⟨members, rfl, _, hv, entries, rfl, hall⟩, rfl⟩

end Report
end LintBridge
