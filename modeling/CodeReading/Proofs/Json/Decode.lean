import Mathlib.Data.List.Forall2
import CodeReading.Json.Decode

set_option autoImplicit false

namespace CodeReading.Json

def asNat : Decoder Nat
  | .num n => n.toNat?
  | _ => none

theorem asNat_nat (n : Nat) : asNat (.nat n) = some n := rfl

theorem asNatBelow_nat {bound n : Nat} (below : n < bound) :
    asNatBelow bound (.nat n) = some n := by
  simp [asNatBelow, Json.nat, Numeral.toNat?_ofNat, below]

theorem asUInt32_nat (n : UInt32) : asUInt32 (.nat n.toNat) = some n := by
  simp [asUInt32, asNatBelow_nat n.toNat_lt_size]

theorem asUInt64_nat (n : UInt64) : asUInt64 (.nat n.toNat) = some n := by
  simp [asUInt64, asNatBelow_nat n.toNat_lt_size]

theorem text?_text (s : String) : text? (.text s) = some s := rfl

theorem asOption_text (s : String) : asOption text? (.text s) = some (some s) := rfl

theorem asOption_optional (value : Option String) :
    asOption text? (.optional value) = some value := by
  cases value with
  | none => rfl
  | some s => exact asOption_text s

theorem asList_map_of {α β : Type} {decode : Decoder β} {encode : α → Json} {shown : α → β}
    (shows : ∀ a, decode (encode a) = some (shown a)) (items : List α) :
    asList decode (.arr (items.map encode)) = some (items.map shown) := by
  unfold asList
  induction items with
  | nil => rfl
  | cons a items ih => simp [shows a, ih]

theorem asList_map {α : Type} {decode : Decoder α} {encode : α → Json}
    (back : ∀ a, decode (encode a) = some a) (items : List α) :
    asList decode (.arr (items.map encode)) = some items := by
  rw [asList_map_of back, List.map_id']

theorem asList_strings (items : List String) : asList text? (.strings items) = some items :=
  asList_map text?_text items

theorem forall₂_of_asList {α : Type} {decode : Decoder α} {items : List Json} {decoded : List α}
    (h : asList decode (.arr items) = some decoded) :
    List.Forall₂ (fun item a => decode item = some a) items decoded := by
  unfold asList at h
  induction items generalizing decoded with
  | nil =>
    cases h
    exact .nil
  | cons item items ih =>
    simp only [List.mapM_cons, Option.bind_eq_bind, Option.bind_eq_some_iff] at h
    obtain ⟨a, first, rest, others, eq⟩ := h
    cases eq
    exact .cons first (ih others)

variable {fields : List String} {members : List (String × Json)}

theorem asRecord_record (known : ∀ member ∈ members, member.1 ∈ fields)
    (distinct : (members.map (·.1)).Nodup) : asRecord fields (.record members) = some members := by
  have kept : members.filter (fun member => member.1 ∈ fields) = members :=
    List.filter_eq_self.2 fun member mem => decide_eq_true (known member mem)
  simp [asRecord, record, Function.comp_def, kept, distinct]

theorem asRecord_full (distinct : fields.Nodup) (keys : members.map (·.1) = fields) :
    asRecord fields (.record members) = some members := by
  subst keys
  exact asRecord_record (fun _ mem => List.mem_map_of_mem mem) distinct

section
variable {α : Type} {decode : Decoder α} {absent : α} {field key : String} {value : Json}

theorem required_self : required decode field ((field, value) :: members) = decode value := by
  rw [required, List.lookup_cons_self, Option.bind_some]

theorem required_of_ne (apart : field ≠ key) :
    required decode field ((key, value) :: members) = required decode field members := by
  rw [required, required, List.lookup_cons, beq_false_of_ne apart]

theorem defaulted_self :
    defaulted absent decode field ((field, value) :: members) = decode value := by
  rw [defaulted, List.lookup_cons_self]

theorem defaulted_of_ne (apart : field ≠ key) :
    defaulted absent decode field ((key, value) :: members)
      = defaulted absent decode field members := by
  rw [defaulted, defaulted, List.lookup_cons, beq_false_of_ne apart]

theorem defaulted_nil : defaulted absent decode field [] = some absent := by
  rw [defaulted, List.lookup_nil]

end

end CodeReading.Json
