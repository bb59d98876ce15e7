import LessonService.Identity
import LessonService.Proofs.Number.Spelling
import LessonService.Proofs.Text.Encoding
import LessonService.Web.Service
import Mathlib.Data.List.TakeWhile

namespace LessonService

theorem Text.padded_isEncodable (width n : Nat) : (Text.padded width n).IsEncodable := by
  simp only [padded, isEncodable_append, ofNat, ofString_isEncodable, and_true]
  intro c member
  rw [List.eq_of_mem_replicate member]
  decide

theorem Quoted.hexDigit_isUnpaired {n : Nat} (small : n < 16) : (Quoted.hexDigit n).isUnpaired = false := by
  unfold Quoted.hexDigit CodePoint.isUnpaired
  rw [Bool.and_eq_false_iff]
  left
  rw [decide_eq_false_iff_not]
  dsimp only
  split <;> omega

theorem Quoted.unit_isEncodable (n : Nat) : (Quoted.unit n).IsEncodable := by
  have digit (m : Nat) := Quoted.hexDigit_isUnpaired (Nat.mod_lt m (by decide : 0 < 16))
  simp only [Quoted.unit, Text.isEncodable_cons, Text.isEncodable_nil, digit, and_true]
  decide

theorem Quoted.escape_isEncodable {c : CodePoint} (paired : c.isUnpaired = false) :
    (Quoted.escape false c).IsEncodable := by
  unfold Quoted.escape
  rw [Bool.false_and, if_neg Bool.false_ne_true]
  iterate 7 refine Text.isEncodable_ite (by decide) ?_
  exact Text.isEncodable_ite (Quoted.unit_isEncodable c.value) (by simpa using paired)

theorem Quoted.encode_isEncodable {t : Text} (encodable : t.IsEncodable) : (Quoted.encode false t).IsEncodable := by
  have quote : (('"' : CodePoint)).isUnpaired = false := by decide
  simp only [Quoted.encode, Text.isEncodable_cons, Text.isEncodable_append, Text.isEncodable_nil, quote, and_true, true_and]
  intro c member
  obtain ⟨d, inside, escaped⟩ := List.mem_flatMap.mp member
  exact Quoted.escape_isEncodable (encodable d inside) c escaped

theorem Literal.hexDigits_isEncodable (count n : Nat) : (Literal.hexDigits count n).IsEncodable := by
  induction count generalizing n with
  | zero => exact Text.isEncodable_nil
  | succ count ih =>
    have digit := Quoted.hexDigit_isUnpaired (Nat.mod_lt n (by decide : 0 < 16))
    simp [Literal.hexDigits, ih, digit]

/-- Identities that are drawn for lessons can be sent. -/
theorem Identity.groupedText_isEncodable (i : Identity) : i.groupedText.IsEncodable := by
  have compact : i.compactText.IsEncodable := by
    intro c member
    obtain ⟨b, -, digit⟩ := List.mem_flatMap.mp member
    exact Literal.hexDigits_isEncodable 2 b c digit
  have cut (start count : Nat) : Text.IsEncodable ((i.compactText.drop start).take count) :=
    fun c member => compact c (List.mem_of_mem_drop (List.mem_of_mem_take member))
  refine .join (Text.ofString_isEncodable "-") ?_
  simp only [List.forall_mem_cons, cut, true_and]
  exact fun _ member => absurd member List.not_mem_nil

theorem Date.toText_isEncodable (d : Date) : d.toText.IsEncodable := by
  simp [toText, Text.padded_isEncodable]

theorem DateTime.toText_isEncodable {between : Text} (encodable : between.IsEncodable) (t : DateTime) :
    (t.toText between).IsEncodable := by
  have fraction (n : Nat) : Text.IsEncodable (if n = 0 then [] else "." ++ Text.padded 6 n) :=
    Text.isEncodable_ite Text.isEncodable_nil (by simp [Text.padded_isEncodable])
  have offset : Text.IsEncodable (t.offset.elim [] offsetText) := by
    cases t.offset with
    | none => exact Text.isEncodable_nil
    | some n =>
      have sign : Text.IsEncodable (if n < 0 then "-" else "+") :=
        Text.isEncodable_ite (Text.ofString_isEncodable _) (Text.ofString_isEncodable _)
      have seconds (m : Nat) : Text.IsEncodable (if m = 0 then [] else ":" ++ Text.padded 2 m) :=
        Text.isEncodable_ite Text.isEncodable_nil (by simp [Text.padded_isEncodable])
      simp [offsetText, sign, seconds, Text.padded_isEncodable]
  simp [toText, Date.toText_isEncodable, clockText, Text.padded_isEncodable, encodable, fraction, offset]

namespace Content

variable {levels : Nat} {c : Content}

/-- The value can be written on so many levels, and what is written can be sent. -/
def IsSendable (levels : Nat) (c : Content) : Prop := ∃ t, c.written levels = .ok t ∧ t.IsEncodable

theorem IsSendable.render (sendable : c.IsSendable maxDepth) : ∃ t, c.render = .ok t := by
  obtain ⟨t, written, encodable⟩ := sendable
  have whole : t.takeWhile (fun c => !c.isUnpaired) = t := by
    refine List.takeWhile_eq_self_iff.mpr fun c member => ?_
    simp [encodable c member]
  refine ⟨t, ?_⟩
  simp [Content.render, written, bind, Except.bind, whole, pure, Except.pure]

theorem text_isSendable {t : Text} (encodable : t.IsEncodable) : (text t).IsSendable levels :=
  ⟨_, by simp only [written], Quoted.encode_isEncodable encodable⟩

theorem null_isSendable : null.IsSendable levels :=
  ⟨"null", by simp only [written], Text.ofString_isEncodable _⟩

theorem ofOption_text_isSendable {t? : Option Text} (encodable : ∀ t, t? = some t → t.IsEncodable) :
    (ofOption text t?).IsSendable levels := by
  cases t? with
  | none => exact null_isSendable
  | some t => exact text_isSendable (encodable t rfl)

theorem flag_isSendable (b : Bool) : (flag b).IsSendable levels := by
  cases b with
  | true => exact ⟨"true", by simp only [written, if_true], Text.ofString_isEncodable _⟩
  | false => exact ⟨"false", by simp only [written, Bool.false_eq_true, if_false], Text.ofString_isEncodable _⟩

theorem numberText_eq_ok_iff {n : Number} {t : Text} : numberText n = .ok t ↔ n.isWritable = true ∧ n.toText = t := by
  cases n with
  | whole k =>
    rw [numberText, Number.isWritable, Number.toText]
    by_cases short : Decimal.isWritable k = true <;> simp [short]
  | real x =>
    rw [numberText, Number.isWritable, Number.toText]
    by_cases finite : x.value?.isSome = true <;> simp [finite]

theorem number_isSendable {n : Number} (writable : n.isWritable = true) : (number n).IsSendable levels :=
  ⟨n.toText, by rw [written, numberText_eq_ok_iff.mpr ⟨writable, rfl⟩], n.toText_isEncodable⟩

theorem ofInt_isSendable {n : Int} (writable : Decimal.isWritable n = true) : (ofInt n).IsSendable levels :=
  number_isSendable writable

theorem exists_writtenFields {fields : List (Text × Content)}
    (sendable : ∀ f ∈ fields, f.1.IsEncodable ∧ f.2.IsSendable levels) :
    ∃ parts, writtenFields levels fields = .ok parts ∧ ∀ t ∈ parts, t.IsEncodable := by
  induction fields with
  | nil => exact ⟨[], by simp only [writtenFields], fun _ member => absurd member List.not_mem_nil⟩
  | cons f fields ih =>
    rw [List.forall_mem_cons] at sendable
    obtain ⟨n, c⟩ := f
    obtain ⟨⟨name, t, wrote, encodable⟩, others⟩ := sendable
    obtain ⟨parts, rest, all⟩ := ih others
    refine ⟨_ :: parts, by simp only [writtenFields, wrote, rest]; rfl, ?_⟩
    rw [List.forall_mem_cons]
    exact ⟨by simp [Quoted.encode_isEncodable name, encodable], all⟩

/-- A record lies a level above its fields. -/
theorem record_isSendable {fields : List (Text × Content)}
    (sendable : ∀ f ∈ fields, f.1.IsEncodable ∧ f.2.IsSendable levels) : (record fields).IsSendable (levels + 1) := by
  obtain ⟨parts, wrote, encodable⟩ := exists_writtenFields sendable
  have all : (Text.join "," parts).IsEncodable := .join (Text.ofString_isEncodable _) encodable
  exact ⟨_, by simp only [written, levelsBelow, wrote, bind, Except.bind]; rfl, by simp [all]⟩

theorem exists_writtenItems {items : List Content} (sendable : ∀ c ∈ items, c.IsSendable levels) :
    ∃ parts, writtenItems levels items = .ok parts ∧ ∀ t ∈ parts, t.IsEncodable := by
  induction items with
  | nil => exact ⟨[], by simp only [writtenItems], fun _ member => absurd member List.not_mem_nil⟩
  | cons c items ih =>
    rw [List.forall_mem_cons] at sendable
    obtain ⟨⟨t, wrote, encodable⟩, others⟩ := sendable
    obtain ⟨parts, rest, all⟩ := ih others
    refine ⟨t :: parts, by simp only [writtenItems, wrote, rest]; rfl, ?_⟩
    rw [List.forall_mem_cons]
    exact ⟨encodable, all⟩

/-- A list lies a level above its parts. -/
theorem list_isSendable {items : List Content} (sendable : ∀ c ∈ items, c.IsSendable levels) :
    (list items).IsSendable (levels + 1) := by
  obtain ⟨parts, wrote, encodable⟩ := exists_writtenItems sendable
  have all : (Text.join "," parts).IsEncodable := .join (Text.ofString_isEncodable _) encodable
  exact ⟨_, by simp only [written, levelsBelow, wrote, bind, Except.bind]; rfl, by simp [written.bracketed, all]⟩

end Content

end LessonService
