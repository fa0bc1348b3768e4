import LedStrip.Proofs.Json.Grammar
import Mathlib.Data.List.Forall2
import Mathlib.Data.List.ReduceOption

/-!
# Records as texts

A record is written with settings, each of which gives a field its value.  A `Scheme` says how they
are spelled, and `Scheme.Text` are the texts that write given settings: objects with the members in
any order and other members among them, and lists of the values of the first fields in order.
`Scheme.respell` is for texts that spell one of the values in another way.  `Scheme.Twice` and
`Scheme.Gives` are about records with anything in them.
-/

namespace LedStrip.Json

variable {σ : Type}

/-- How the settings of a record are written: the names of its fields in order, and for a setting
the name of its field and the texts of its value. -/
structure Scheme (σ : Type) where
  names : List String
  name : σ → String
  Spells : σ → List Char → Prop

/-- A member of an object that writes a setting, or one that has nothing to do with the record. -/
inductive Scheme.Writes (k : Scheme σ) : Option σ → Member → Prop
  | known {s : σ} {m : Member} : Denotes (k.name s) m.key → k.Spells s m.value → Writes k (some s) m
  | unknown {key : String} {m : Member} : Denotes key m.key → key ∉ k.names → Value m.value →
    Writes k none m

/-- The texts of a record with these settings. -/
inductive Scheme.Text (k : Scheme σ) (settings : List σ) : List Char → Prop
  | object {order : List (Option σ)} {members : List Member} {cs : List Char} :
    order.reduceOption.Perm settings → List.Forall₂ k.Writes order members →
    IsObject members cs → Text k settings cs
  | list {values : List (List Char)} {cs : List Char} : settings.map k.name <+: k.names →
    List.Forall₂ k.Spells settings values → IsList values cs → Text k settings cs

theorem exists_of_forall₂ {α β : Type} {R : α → β → Prop} {as : List α} {bs : List β}
    (related : List.Forall₂ R as bs) {a : α} (mem : a ∈ as) : ∃ b, R a b :=
  ((List.forall₂_and_left (p := fun a => ∃ b, R a b) as bs).1
    (related.imp fun _ b r => ⟨⟨b, r⟩, r⟩)).1 a mem

/-- Every setting of a text is spelled somewhere in it. -/
theorem Scheme.Text.spelled {k : Scheme σ} {settings : List σ} {cs : List Char}
    (text : k.Text settings cs) {s : σ} (mem : s ∈ settings) : ∃ value, k.Spells s value := by
  cases text with
  | object perm writes _ =>
    obtain ⟨m, known⟩ :=
      exists_of_forall₂ writes (List.reduceOption_mem_iff.1 (perm.mem_iff.2 mem))
    cases known with
    | known _ spells => exact ⟨_, spells⟩
  | list _ spells _ => exact exists_of_forall₂ spells mem

/-- The scheme in which the value of one field is spelled otherwise. -/
def Scheme.respell (k : Scheme σ) (field : String) (texts : List Char → Prop) : Scheme σ where
  names := k.names
  name := k.name
  Spells s cs := if k.name s = field then texts cs else k.Spells s cs

/-- An object of which two members write the same field. -/
def Scheme.Twice (k : Scheme σ) (cs : List Char) : Prop :=
  ∃ members, IsObject members cs ∧ (∀ m ∈ members, IsString m.key ∧ Value m.value) ∧
    ∃ name ∈ k.names, ∃ m m', [m, m'].Sublist members ∧ Denotes name m.key ∧ Denotes name m'.key

/-- A record that gives a field a value, whatever it gives the others. -/
inductive Scheme.Gives (k : Scheme σ) (name : String) (value : List Char) : List Char → Prop
  | object {members : List Member} {m : Member} {cs : List Char} : IsObject members cs →
    (∀ m ∈ members, IsString m.key ∧ Value m.value) → m ∈ members → Denotes name m.key →
    m.value = value → Gives k name value cs
  | list {values : List (List Char)} {i : Nat} {cs : List Char} : IsList values cs →
    (∀ v ∈ values, Value v) → k.names[i]? = some name → values[i]? = some value →
    Gives k name value cs

/-- A text that holds such a value between blanks. -/
def Document (P : List Char → Prop) (text : String) : Prop :=
  ∃ before cs after, Blank before ∧ Blank after ∧ P cs ∧ text.toList = before ++ (cs ++ after)

end LedStrip.Json
