/-
Module: OsmoMsc.Library.Ber
Purpose: The basic encoding rules of ASN.1 with definite lengths.  An element is a tag with octets,
  or a tag with elements; `encodeAll` writes a sequence of elements, and `decode` reads one,
  accepting tags and lengths in every form they may have.  What is written is read back, whatever
  the sizes and the depth.
Trusted boundary: none
Main exports: Ber, identifier, lengthOctets, element, encode, encodeAll, decode, decode_encodeAll,
  length_element_le, readInt
-/
import Mathlib.Data.Nat.Digits.Lemmas
import Mathlib.Tactic.Common

namespace OsmoMsc.Library

open List

/-- An element: its class, the number of its tag, and its octets or the elements in it. -/
inductive Ber where
  | prim (cls : Fin 4) (tag : Nat) (octets : List UInt8)
  | node (cls : Fin 4) (tag : Nat) (children : List Ber)

namespace Ber

/-! ### Writing -/

/-- The digits of a tag above 30, most significant first: all but the last are marked. -/
def continued : List Nat → List UInt8
  | [] => []
  | [d] => [.ofNat d]
  | d :: e :: ds => .ofNat (d + 128) :: continued (e :: ds)

/-- The class and the form of an element, as they stand in its first octet. -/
def form (cls : Fin 4) (constructed : Bool) : Nat := cls * 64 + if constructed then 32 else 0

/-- The identifier octets. -/
def identifier (cls : Fin 4) (constructed : Bool) (tag : Nat) : List UInt8 :=
  if tag < 31 then [.ofNat (form cls constructed + tag)]
  else .ofNat (form cls constructed + 31) :: continued (Nat.digits 128 tag).reverse

/-- The length octets. -/
def lengthOctets (len : Nat) : List UInt8 :=
  if len < 128 then [.ofNat len]
  else .ofNat (128 + (Nat.digits 256 len).length) :: (Nat.digits 256 len).reverse.map .ofNat

/-- An element with its content. -/
def element (cls : Fin 4) (constructed : Bool) (tag : Nat) (content : List UInt8) : List UInt8 :=
  identifier cls constructed tag ++ (lengthOctets content.length ++ content)

mutual

/-- The octets of an element. -/
def encode : Ber → List UInt8
  | .prim cls tag octets => element cls false tag octets
  | .node cls tag children => element cls true tag (encodeAll children)

/-- The octets of a sequence of elements. -/
def encodeAll : List Ber → List UInt8
  | [] => []
  | t :: ts => encode t ++ encodeAll ts

end

/-! ### Reading -/

/-- The digits of a tag above 30. -/
def readContinued : Nat → List UInt8 → Option (Nat × List UInt8)
  | _, [] => none
  | acc, b :: bs =>
      if b.toNat < 128 then some (acc * 128 + b.toNat, bs)
      else readContinued (acc * 128 + (b.toNat - 128)) bs

/-- The identifier: class, form and number, and what follows. -/
def readIdentifier : List UInt8 → Option (Fin 4 × Bool × Nat × List UInt8)
  | [] => none
  | b :: bs =>
      let cls : Fin 4 := ⟨b.toNat / 64, by have := b.toNat_lt; omega⟩
      let constructed : Bool := b.toNat / 32 % 2 = 1
      if b.toNat % 32 = 31 then
        (readContinued 0 bs).map fun (tag, rest) => (cls, constructed, tag, rest)
      else some (cls, constructed, b.toNat % 32, bs)

/-- A number from octets, most significant first. -/
def readNat (octets : List UInt8) : Nat := octets.foldl (fun acc b => acc * 256 + b.toNat) 0

/-- A length of either form, and what follows; the indefinite form is not supported. -/
def readLength : List UInt8 → Option (Nat × List UInt8)
  | [] => none
  | b :: bs =>
      if b.toNat < 128 then some (b.toNat, bs)
      else if b.toNat = 128 ∨ bs.length < b.toNat - 128 then none
      else some (readNat (bs.take (b.toNat - 128)), bs.drop (b.toNat - 128))

/-- A sequence of elements that fills the octets; `fuel` bounds the elements and their depth. -/
def decodeAll : Nat → List UInt8 → Option (List Ber)
  | 0, _ => none
  | fuel + 1, octets =>
      if octets = [] then some []
      else
        match readIdentifier octets with
        | none => none
        | some (cls, constructed, tag, rest) =>
            match readLength rest with
            | none => none
            | some (len, rest) =>
                if rest.length < len then none
                else
                  match decodeAll fuel (rest.drop len) with
                  | none => none
                  | some ts =>
                      if constructed then
                        (decodeAll fuel (rest.take len)).map fun children =>
                          .node cls tag children :: ts
                      else some (.prim cls tag (rest.take len) :: ts)

/-- A sequence of elements that fills the octets. -/
def decode (octets : List UInt8) : Option (List Ber) := decodeAll (octets.length + 1) octets

/-- The content of an integer. -/
def readInt (octets : List UInt8) : Int :=
  if 128 ≤ (octets.headD 0).toNat then (readNat octets : Int) - 256 ^ octets.length
  else readNat octets

/-- The content of an integer is as short as it can be: its first nine bits are not all equal. -/
structure Shortest (octets : List UInt8) : Prop where
  nonempty : octets ≠ []
  bits : ∀ a b rest, octets = a :: b :: rest →
    ¬ (a = 0 ∧ b.toNat < 128) ∧ ¬ (a = 255 ∧ 128 ≤ b.toNat)

/-! ### What is written is read back -/

theorem foldl_digits (base n acc : Nat) :
    (Nat.digits base n).reverse.foldl (fun acc d => acc * base + d) acc =
      acc * base ^ (Nat.digits base n).length + n := by
  have general : ∀ ds : List Nat, ds.reverse.foldl (fun acc d => acc * base + d) acc =
      acc * base ^ ds.length + Nat.ofDigits base ds := by
    intro ds
    induction ds with
    | nil => simp
    | cons d ds ih =>
        simp only [reverse_cons, foldl_append, foldl_cons, foldl_nil, ih,
          length_cons, Nat.ofDigits_cons, Nat.pow_succ]
        ring
  rw [general, Nat.ofDigits_digits]

theorem readContinued_continued {ds : List Nat} (nonempty : ds ≠ []) (small : ∀ d ∈ ds, d < 128)
    (acc : Nat) (rest : List UInt8) :
    readContinued acc (continued ds ++ rest) =
      some (ds.foldl (fun acc d => acc * 128 + d) acc, rest) := by
  induction ds generalizing acc with
  | nil => exact absurd rfl nonempty
  | cons d ds ih =>
      have own : d < 128 := small d mem_cons_self
      cases ds with
      | nil =>
          have octet := UInt8.toNat_ofNat_of_lt' (show d < 256 by omega)
          simp [continued, readContinued, octet, own]
      | cons e ds =>
          have octet := UInt8.toNat_ofNat_of_lt' (show d + 128 < 256 by omega)
          have more := ih (cons_ne_nil e ds)
            (fun c member => small c (mem_cons_of_mem d member)) (acc * 128 + d)
          simp only [continued, cons_append, readContinued, octet, foldl_cons] at more ⊢
          rw [if_neg (by omega), Nat.add_sub_cancel]
          exact more

theorem form_lt (cls : Fin 4) (constructed : Bool) : form cls constructed + 31 < 256 := by
  have bound := cls.isLt
  cases constructed <;> simp [form] <;> omega

/-- The three parts of a first octet. -/
theorem readForm (cls : Fin 4) (constructed : Bool) {low : Nat} (small : low < 32) :
    (UInt8.ofNat (form cls constructed + low)).toNat / 64 = cls ∧
      decide ((UInt8.ofNat (form cls constructed + low)).toNat / 32 % 2 = 1) = constructed ∧
      (UInt8.ofNat (form cls constructed + low)).toNat % 32 = low := by
  have bound := cls.isLt
  have fits := form_lt cls constructed
  rw [UInt8.toNat_ofNat_of_lt' (show form cls constructed + low < 256 by omega)]
  cases constructed
  · simp only [form, Bool.false_eq_true, if_false]
    refine ⟨by omega, decide_eq_false (by omega), by omega⟩
  · simp only [form, if_true]
    refine ⟨by omega, decide_eq_true (by omega), by omega⟩

theorem readIdentifier_identifier (cls : Fin 4) (constructed : Bool) (tag : Nat)
    (rest : List UInt8) :
    readIdentifier (identifier cls constructed tag ++ rest) =
      some (cls, constructed, tag, rest) := by
  unfold identifier
  by_cases small : tag < 31
  · obtain ⟨ownClass, ownForm, low⟩ := readForm cls constructed (show tag < 32 by omega)
    rw [if_pos small]
    simp only [cons_append, nil_append, readIdentifier, ownClass, ownForm, low]
    rw [if_neg (by omega)]
  · obtain ⟨ownClass, ownForm, low⟩ := readForm cls constructed (show 31 < 32 by omega)
    have digits := @readContinued_continued (Nat.digits 128 tag).reverse
      (by
        rw [ne_eq, reverse_eq_nil_iff]
        exact Nat.digits_ne_nil_iff_ne_zero.mpr (by omega))
      (fun d member => Nat.digits_lt_base (by decide) (mem_reverse.mp member)) 0 rest
    rw [foldl_digits, Nat.zero_mul, Nat.zero_add] at digits
    rw [if_neg small]
    simp only [cons_append, readIdentifier, ownClass, ownForm, low, digits]
    rfl

theorem readNat_digits (n : Nat) : readNat ((Nat.digits 256 n).reverse.map .ofNat) = n := by
  have octets : ∀ ds : List Nat, (∀ d ∈ ds, d < 256) → ∀ acc,
      (ds.map UInt8.ofNat).foldl (fun acc b => acc * 256 + b.toNat) acc =
        ds.foldl (fun acc d => acc * 256 + d) acc := by
    intro ds small
    induction ds with
    | nil => exact fun _ => rfl
    | cons d ds ih =>
        intro acc
        rw [map_cons, foldl_cons, foldl_cons, UInt8.toNat_ofNat_of_lt' (small d mem_cons_self)]
        exact ih (fun c member => small c (mem_cons_of_mem d member)) _
  rw [readNat, octets _ fun d member => Nat.digits_lt_base (by decide) (mem_reverse.mp member),
    foldl_digits, Nat.zero_mul, Nat.zero_add]

/-- A length that a machine word can hold. -/
theorem readLength_lengthOctets {len : Nat} (word : len < 2 ^ 64) (rest : List UInt8) :
    readLength (lengthOctets len ++ rest) = some (len, rest) := by
  unfold lengthOctets
  by_cases short : len < 128
  · have octet := UInt8.toNat_ofNat_of_lt' (show len < 256 by omega)
    rw [if_pos short]
    simp only [cons_append, nil_append, readLength, octet, if_pos short]
  · have few : (Nat.digits 256 len).length ≤ 8 := by
      rw [Nat.digits_length_le_iff (by decide)]
      exact Nat.lt_of_lt_of_le word (by decide)
    have some_digit : 0 < (Nat.digits 256 len).length :=
      length_pos_iff.mpr (Nat.digits_ne_nil_iff_ne_zero.mpr (by omega))
    have octet :=
      UInt8.toNat_ofNat_of_lt' (show 128 + (Nat.digits 256 len).length < 256 by omega)
    have count : ((Nat.digits 256 len).reverse.map UInt8.ofNat).length =
        (Nat.digits 256 len).length := by simp
    rw [if_neg short]
    simp only [cons_append, readLength, octet, Nat.add_sub_cancel_left]
    rw [if_neg (by omega), if_neg (by
      rw [length_append, count]
      omega)]
    have taken : ((Nat.digits 256 len).reverse.map UInt8.ofNat ++ rest).take
        (Nat.digits 256 len).length = (Nat.digits 256 len).reverse.map UInt8.ofNat :=
      count ▸ take_left
    have dropped : ((Nat.digits 256 len).reverse.map UInt8.ofNat ++ rest).drop
        (Nat.digits 256 len).length = rest :=
      count ▸ drop_left
    rw [taken, dropped, readNat_digits]

theorem length_element (cls : Fin 4) (constructed : Bool) (tag : Nat) (content : List UInt8) :
    content.length + 2 ≤ (element cls constructed tag content).length := by
  have tagged : 0 < (identifier cls constructed tag).length := by
    unfold identifier
    split <;> simp
  have measured : 0 < (lengthOctets content.length).length := by
    unfold lengthOctets
    split <;> simp
  simp only [element, length_append]
  omega

theorem length_continued (ds : List Nat) : (continued ds).length = ds.length := by
  fun_induction continued ds with
  | case1 | case2 _ => rfl
  | case3 d e ds ih => rw [length_cons, length_cons, ih]

/-- A bound that is good enough where sizes only have to stay below that of a machine word. -/
theorem length_element_le (cls : Fin 4) (constructed : Bool) (tag : Nat) (content : List UInt8) :
    (element cls constructed tag content).length ≤ tag + 2 * content.length + 2 := by
  have digits : ∀ {base : Nat}, 1 < base → ∀ n, (Nat.digits base n).length ≤ n := fun big n =>
    (Nat.digits_length_le_iff big n).mpr (Nat.lt_pow_self big)
  have tagged : (identifier cls constructed tag).length ≤ tag + 1 := by
    have few := digits (show 1 < 128 by decide) tag
    unfold identifier
    split
    · simp
    · rw [length_cons, length_continued, length_reverse]
      omega
  have measured : (lengthOctets content.length).length ≤ content.length + 1 := by
    have few := digits (show 1 < 256 by decide) content.length
    unfold lengthOctets
    split
    · simp
    · rw [length_cons, length_map, length_reverse]
      omega
  simp only [element, length_append]
  omega

/-- One element and what follows it. -/
theorem decodeAll_element {cls : Fin 4} {constructed : Bool} {tag : Nat}
    {content rest : List UInt8} (word : content.length < 2 ^ 64) (fuel : Nat) :
    decodeAll (fuel + 1) (element cls constructed tag content ++ rest) =
      match decodeAll fuel rest with
      | none => none
      | some ts =>
          if constructed then
            (decodeAll fuel content).map fun children => .node cls tag children :: ts
          else some (.prim cls tag content :: ts) := by
  have long := length_element cls constructed tag content
  have nonempty : element cls constructed tag content ++ rest ≠ [] := by
    intro empty
    have none := congrArg List.length empty
    simp only [length_append, length_nil] at none
    omega
  have source : element cls constructed tag content ++ rest =
      identifier cls constructed tag ++ (lengthOctets content.length ++ (content ++ rest)) := by
    simp [element]
  rw [decodeAll, if_neg nonempty, source, readIdentifier_identifier]
  simp only
  rw [readLength_lengthOctets word]
  simp only [take_left, drop_left]
  rw [if_neg (by rw [length_append]; omega)]

variable {ts : List Ber}

/-- A sequence that is written is read back, with fuel for its octets. -/
theorem decodeAll_encodeAll {fuel : Nat} (enough : (encodeAll ts).length < fuel)
    (word : (encodeAll ts).length < 2 ^ 64) : decodeAll fuel (encodeAll ts) = some ts := by
  induction fuel generalizing ts with
  | zero => exact absurd enough (Nat.not_lt_zero _)
  | succ fuel ih =>
      cases ts with
      | nil => rfl
      | cons t ts =>
          cases t with
          | prim cls tag octets =>
              have long := length_element cls false tag octets
              simp only [encodeAll, encode, length_append] at enough word ⊢
              rw [decodeAll_element (by omega), ih (by omega) (by omega)]
              rfl
          | node cls tag children =>
              have long := length_element cls true tag (encodeAll children)
              simp only [encodeAll, encode, length_append] at enough word ⊢
              rw [decodeAll_element (by omega), ih (by omega) (by omega),
                @ih children (by omega) (by omega)]
              rfl

/-- What is written is read back. -/
theorem decode_encodeAll (word : (encodeAll ts).length < 2 ^ 64) :
    decode (encodeAll ts) = some ts :=
  decodeAll_encodeAll (Nat.lt_succ_self _) word

@[simp] theorem encodeAll_append (ts us : List Ber) :
    encodeAll (ts ++ us) = encodeAll ts ++ encodeAll us := by
  induction ts with
  | nil => rfl
  | cons t ts ih => simp [encodeAll, ih]

@[simp] theorem encodeAll_singleton (t : Ber) : encodeAll [t] = encode t := by
  simp [encodeAll]

/-- A positive integer whose first octet has no sign bit. -/
theorem readInt_of_small {octets : List UInt8} (small : (octets.headD 0).toNat < 128) :
    readInt octets = readNat octets := by
  rw [readInt, if_neg (Nat.not_le_of_lt small)]

end Ber

end OsmoMsc.Library
