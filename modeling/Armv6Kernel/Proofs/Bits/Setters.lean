import Armv6Kernel.Bits.Assignment

/-!
# Setting the fields of a packed word

If the accessible fields of a layout lie inside the word and apart from one another, then setting
them works as for a record: each field holds the value that was last set, or else the one it began
with, and the bits outside the accessible fields never change.
-/

namespace Armv6Kernel

namespace BitField

variable {width : Nat}

/-- Putting a field leaves the bits of a mask alone that the field does not meet. -/
theorem put_and (field : BitField width) (value : BitVec width) (word mask : Word)
    (disjoint : field.mask &&& mask = 0) :
    field.put value word &&& mask = word &&& mask := by
  apply BitVec.eq_of_getLsbD_eq
  intro index bound
  have apart : (field.mask &&& mask).getLsbD index = false := by
    rw [disjoint]
    exact BitVec.getLsbD_zero
  simp only [BitVec.getLsbD_and, getLsbD_mask, getLsbD_put] at apart ⊢
  split
  · next inside =>
      simp only [inside.1, inside.2.1, inside.2.2, decide_true, Bool.true_and] at apart
      rw [apart, Bool.and_false, Bool.and_false]
  · rfl

theorem Apart.symm {otherWidth : Nat} {field : BitField width} {other : BitField otherWidth}
    (apart : field.Apart other) : other.Apart field :=
  Or.symm apart

theorem test_put_of_apart (field : BitField 1) (other : BitField width) (apart : field.Apart other)
    (value : BitVec width) (word : Word) : field.test (other.put value word) = field.test word := by
  rw [test_eq_get, get_put_of_apart field other apart, ← test_eq_get]

theorem test_assign_of_apart (field other : BitField 1) (apart : field.Apart other) (value : Bool)
    (word : Word) : field.test (other.assign value word) = field.test word :=
  test_put_of_apart field other apart _ word

theorem get_assign_of_apart (field : BitField width) (other : BitField 1)
    (apart : field.Apart other) (value : Bool) (word : Word) :
    field.get (other.assign value word) = field.get word :=
  get_put_of_apart field other apart _ word

end BitField

/-- Masking all but one bit leaves zero if and only if the bit is clear. -/
theorem and_twoPow_eq_zero_iff (word : Word) {index : Nat} (inside : index < 32) :
    word &&& BitVec.twoPow 32 index = 0 ↔ word.getLsbD index = false := by
  have nonzero : BitVec.twoPow 32 index ≠ 0 := by
    intro zero
    have bit : (BitVec.twoPow 32 index).getLsbD index = true := by
      rw [BitVec.getLsbD_twoPow, decide_eq_true inside, decide_eq_true rfl, Bool.and_self]
    rw [zero, BitVec.ofNat_eq_ofNat, BitVec.getLsbD_zero] at bit
    cases bit
  rw [BitVec.and_twoPow]
  cases word.getLsbD index with
  | true => exact ⟨fun zero => absurd zero nonzero, fun impossible => by cases impossible⟩
  | false => exact ⟨fun _ => rfl, fun _ => rfl⟩

/-- Clearing bits before they are set changes nothing. -/
theorem clear_or (word bits : Word) : (word &&& ~~~bits) ||| bits = word ||| bits := by
  apply BitVec.eq_of_getLsbD_eq
  intro index bound
  simp only [BitVec.getLsbD_or, BitVec.getLsbD_and, BitVec.getLsbD_not, bound, decide_true,
    Bool.true_and]
  cases bits.getLsbD index <;> simp

/-! ## One field -/

/-- Whether a value is of a kind. -/
def FieldValue.hasKind : FieldValue → FieldKind → Bool
  | .flag _, .flag => true
  | .number _, .number _ => true
  | .permission _, .permission => true
  | .domain _, .domain => true
  | _, _ => false

/-- The number of bits that spell the values of a kind.  A number must fit the integer that it is
exchanged through. -/
def FieldKind.Spelled : FieldKind → Nat → Prop
  | .flag, width => width = 1
  | .number accessorBits, width => width ≤ accessorBits
  | .permission, width => width = 2
  | .domain, width => width = 4

instance (kind : FieldKind) (width : Nat) : Decidable (kind.Spelled width) :=
  match kind with
  | .flag => inferInstanceAs (Decidable (_ = _))
  | .number _ => inferInstanceAs (Decidable (_ ≤ _))
  | .permission => inferInstanceAs (Decidable (_ = _))
  | .domain => inferInstanceAs (Decidable (_ = _))

namespace NamedField

/-- The value may be set in the field. -/
structure Admits (field : NamedField) (value : FieldValue) : Prop where
  kind : value.hasKind field.kind = true
  inRange : value.toNat ≤ field.maximum

/-- The word with a value put in the field. -/
def put (field : NamedField) (value : FieldValue) (word : Word) : Word :=
  field.bits.put (BitVec.ofNat field.width value.toNat) word

variable {field other : NamedField} {value : FieldValue}

theorem assign?_of_admits (admitted : field.Admits value) (word : Word) :
    field.assign? value word = some (field.put value word) :=
  if_pos admitted.inRange

theorem assign_of_admits (admitted : field.Admits value) (word : Word) :
    field.assign value word = .ok (field.put value word) :=
  (field.assign_eq_ok_iff value word _).mpr (assign?_of_admits admitted word)

/-- A getter returns the value that was set. -/
theorem value_put (fits : field.bits.Fits) (spelled : field.kind.Spelled field.width)
    (admitted : field.Admits value) (word : Word) : field.value (field.put value word) = value := by
  have raw : (field.bits.get (field.put value word)).toNat = value.toNat := by
    have small := Nat.lt_of_le_of_lt admitted.inRange (BitVec.allOnes field.width).isLt
    rw [put, BitField.get_put _ fits, BitVec.toNat_ofNat, Nat.mod_eq_of_lt small]
  have kind := admitted.kind
  unfold NamedField.value
  rw [raw]
  rcases field with ⟨name, width, bits, fieldKind, accessible⟩
  cases fieldKind <;> cases value <;> simp only [FieldValue.hasKind, Bool.false_eq_true] at kind
  · next flag => cases flag <;> rfl
  · rfl
  · next permission => cases permission <;> rfl
  · next domain =>
      simp [FieldValue.toNat, Domain.masked, Domain.number]

/-- Setting a field does not change what another getter returns. -/
theorem value_put_of_apart (apart : field.bits.Apart other.bits) (value : FieldValue)
    (word : Word) : field.value (other.put value word) = field.value word := by
  unfold NamedField.value put
  rw [BitField.get_put_of_apart _ _ apart]

end NamedField

/-! ## Calls of the setters -/

/-- A call of one of the setters of a field. -/
structure SetterCall where
  field : NamedField
  value : FieldValue
  /-- Whether a value that is too wide is refused; otherwise it panics. -/
  checked : Bool

namespace SetterCall

/-- The word after the call.  A setter that refuses a value leaves the word as it was. -/
def run (call : SetterCall) (word : Word) : Except Panic Word :=
  if call.checked then
    .ok ((call.field.assign? call.value word).getD word)
  else
    call.field.assign call.value word

/-- The word after a sequence of calls. -/
def runAll (calls : List SetterCall) (word : Word) : Except Panic Word :=
  calls.foldlM (fun word call => call.run word) word

/-- The call is one that a caller outside the type can make, with a value in range. -/
structure Suits (call : SetterCall) (layout : Layout) : Prop where
  accessible : call.field ∈ layout.accessibleFields
  admitted : call.field.Admits call.value

/-- The value that a field was last set to, or the one that it began with. -/
def lastValue (field : NamedField) (calls : List SetterCall) (initial : FieldValue) : FieldValue :=
  calls.foldl (fun value call => if call.field.name = field.name then call.value else value) initial

theorem run_of_admits {call : SetterCall} (admitted : call.field.Admits call.value) (word : Word) :
    call.run word = .ok (call.field.put call.value word) := by
  unfold run
  rw [NamedField.assign?_of_admits admitted, NamedField.assign_of_admits admitted]
  cases call.checked <;> rfl

end SetterCall

/-! ## Layouts -/

namespace Layout

/-- The accessible fields are well-placed and go by different names. -/
structure Tidy (layout : Layout) : Prop where
  fits : ∀ field ∈ layout.accessibleFields, field.bits.Fits ∧ field.kind.Spelled field.width
  distinct : layout.accessibleFields.Pairwise fun field other =>
    field.name ≠ other.name ∧ field.bits.Apart other.bits

variable {layout : Layout}

theorem Tidy.eq_or_apart (tidy : layout.Tidy) {field other : NamedField}
    (member : field ∈ layout.accessibleFields) (otherMember : other ∈ layout.accessibleFields) :
    field = other ∨ field.name ≠ other.name ∧ field.bits.Apart other.bits := by
  apply List.Pairwise.forall_of_forall_of_flip (fun field _ => .inl rfl) _ _ member otherMember
  · exact tidy.distinct.imp Or.inr
  · exact tidy.distinct.imp fun ⟨different, apart⟩ => .inr ⟨different.symm, apart.symm⟩

/-- What a getter returns after one setter was called. -/
theorem Tidy.value_put (tidy : layout.Tidy) {call : SetterCall} (suited : call.Suits layout)
    {field : NamedField} (member : field ∈ layout.accessibleFields) (word : Word) :
    field.value (call.field.put call.value word) =
      if call.field.name = field.name then call.value else field.value word := by
  rcases tidy.eq_or_apart suited.accessible member with same | ⟨different, apart⟩
  · have placed := tidy.fits field member
    subst same
    rw [if_pos rfl, NamedField.value_put placed.1 placed.2 suited.admitted]
  · rw [if_neg different, NamedField.value_put_of_apart apart.symm]

end Layout

/-! ## Sequences of calls -/

namespace SetterCall

variable {layout : Layout} {calls : List SetterCall}

/-- The word with the values of all calls put in their fields. -/
def putAll (calls : List SetterCall) (word : Word) : Word :=
  calls.foldl (fun word call => call.field.put call.value word) word

theorem runAll_eq (suited : ∀ call ∈ calls, call.Suits layout) (word : Word) :
    runAll calls word = .ok (putAll calls word) := by
  induction calls generalizing word with
  | nil => rfl
  | cons call calls hypothesis =>
      obtain ⟨first, rest⟩ := List.forall_mem_cons.mp suited
      rw [runAll, List.foldlM_cons, run_of_admits first.admitted]
      exact hypothesis rest _

theorem putAll_and (suited : ∀ call ∈ calls, call.Suits layout) {mask : Word}
    (disjoint : ∀ field ∈ layout.accessibleFields, field.bits.mask &&& mask = 0) (word : Word) :
    putAll calls word &&& mask = word &&& mask := by
  induction calls generalizing word with
  | nil => rfl
  | cons call calls hypothesis =>
      obtain ⟨first, rest⟩ := List.forall_mem_cons.mp suited
      calc putAll calls (call.field.put call.value word) &&& mask
          = call.field.put call.value word &&& mask := hypothesis rest _
        _ = word &&& mask := BitField.put_and _ _ _ _ (disjoint _ first.accessible)

theorem value_putAll (tidy : layout.Tidy) (suited : ∀ call ∈ calls, call.Suits layout)
    {field : NamedField} (member : field ∈ layout.accessibleFields) (word : Word) :
    field.value (putAll calls word) = lastValue field calls (field.value word) := by
  induction calls generalizing word with
  | nil => rfl
  | cons call calls hypothesis =>
      obtain ⟨first, rest⟩ := List.forall_mem_cons.mp suited
      calc field.value (putAll calls (call.field.put call.value word))
          = lastValue field calls (field.value (call.field.put call.value word)) :=
            hypothesis rest _
        _ = lastValue field (call :: calls) (field.value word) := by
            rw [tidy.value_put first member, lastValue, lastValue, List.foldl_cons]

end SetterCall

end Armv6Kernel
