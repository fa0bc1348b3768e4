import LedStrip.Proofs.Json.Numeral
import LedStrip.Proofs.Json.Scheme

/-!
# Compact texts

Texts with nothing but the necessary tokens: strings without escapes, members without blanks around
their colon, and brackets with single commas between their items.
-/

namespace LedStrip.Json

instance : DecidablePred Plain := fun _ => inferInstanceAs (Decidable (_ ∧ _ ∧ _))

theorem spelled_of_plain {s : List Char} (plain : ∀ c ∈ s, Plain c) : Spelled s s := by
  induction s with
  | nil => exact .nil
  | cons c s ih =>
    obtain ⟨first, others⟩ := List.forall_mem_cons.1 plain
    exact .plain first (ih others)

/-- Whether a text can stand between quotes as it is. -/
def plainText (s : String) : Bool := s.toList.all fun c => decide (Plain c)

/-- A text between quotes. -/
def quoted (s : String) : List Char := '"' :: (s.toList ++ ['"'])

theorem spelled_plainText {s : String} (plain : plainText s = true) :
    Spelled s.toList s.toList :=
  spelled_of_plain fun c mem => of_decide_eq_true (List.all_eq_true.1 plain c mem)

theorem denotes_quoted {s : String} (plain : plainText s = true) : Denotes s (quoted s) :=
  ⟨spelled_plainText plain⟩

/-- A member that is written without blanks. -/
def Member.compact (key : String) (value : List Char) : Member where
  key := quoted key
  before := []
  after := []
  value := value
  blank_before := blank_nil
  blank_after := blank_nil

/-- The items behind the first one, each led by a comma, and the end of the bracket. -/
def behind (close : Char) : List (List Char) → List Char
  | [] => [close]
  | item :: items => ',' :: (item ++ behind close items)

theorem items_behind (close : Char) (items : List (List Char)) :
    Items close false items (behind close items) := by
  induction items with
  | nil => exact .nil blank_nil
  | cons item items ih => exact .cons (.next blank_nil blank_nil) ih

theorem list_compact (text : List Char) (texts : List (List Char)) :
    IsList (text :: texts) ('[' :: (text ++ behind ']' texts)) :=
  ⟨.cons (.first blank_nil) (items_behind ']' texts)⟩

theorem object_compact (m : Member) (members : List Member) :
    IsObject (m :: members) ('\x7b' :: (m.text ++ behind '\x7d' (members.map Member.text))) :=
  ⟨.cons (.first blank_nil) (items_behind '\x7d' _)⟩

theorem text_compact {σ : Type} {k : Scheme σ} {settings : List σ} (order : List (Option σ))
    {m : Member} {members : List Member} (writes : List.Forall₂ k.Writes order (m :: members))
    (perm : order.reduceOption.Perm settings) :
    k.Text settings ('\x7b' :: (m.text ++ behind '\x7d' (members.map Member.text))) :=
  .object perm writes (object_compact m members)

theorem document_compact {P : List Char → Prop} {text : String} (holds : P text.toList) :
    Document P text := by
  refine ⟨[], _, [], blank_nil, blank_nil, holds, ?_⟩
  rw [List.nil_append, List.append_nil]

end LedStrip.Json
