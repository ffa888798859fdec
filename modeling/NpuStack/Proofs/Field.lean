import NpuStack.Field
import Mathlib.Algebra.Order.Group.Nat
import Mathlib.Algebra.Order.Ring.Nat
import Mathlib.Data.Nat.ModEq

/-! Reading back a packed word. A layout lists fields from the low end of the
word up; in a word packed by a layout every field holds its own value, cut to
its width, whatever the other values are. If the layout has no gaps, packing
what its fields hold gives the word back, up to the bits above the layout. -/

set_option autoImplicit false

namespace NpuStack.Field

def stop (f : Field) : Nat := f.offset + f.width

/-- Fields that follow each other upwards and stay inside the word. -/
structure Stacked (fields : List Field) : Prop where
  ascending : fields.Pairwise fun lower upper => lower.stop ≤ upper.offset
  inWord : ∀ f ∈ fields, f.stop ≤ 64

instance (fields : List Field) : Decidable (Stacked fields) :=
  decidable_of_iff
    ((fields.Pairwise fun lower upper => lower.stop ≤ upper.offset) ∧ ∀ f ∈ fields, f.stop ≤ 64)
    ⟨fun ⟨ascending, inWord⟩ => ⟨ascending, inWord⟩, fun h => ⟨h.ascending, h.inWord⟩⟩

theorem Stacked.tail {f : Field} {fields : List Field} (stacked : Stacked (f :: fields)) :
    Stacked fields :=
  ⟨(List.pairwise_cons.mp stacked.ascending).2,
    fun g member => stacked.inWord g (List.mem_cons_of_mem f member)⟩

theorem get_eq (f : Field) (word : UInt64) :
    f.get word = word.toNat / 2 ^ f.offset % 2 ^ f.width := by
  rw [get, Nat.shiftRight_eq_div_pow, Nat.one_shiftLeft]

theorem get_lt (f : Field) (word : UInt64) : f.get word < 2 ^ f.width := by
  rw [get_eq]
  exact Nat.mod_lt _ (Nat.two_pow_pos _)

theorem place_eq (f : Field) (value : Nat) :
    f.place value = value % 2 ^ f.width * 2 ^ f.offset := by
  rw [place, Nat.shiftLeft_eq, Nat.one_shiftLeft]

theorem place_add_le (f : Field) (value : Nat) : f.place value + 2 ^ f.offset ≤ 2 ^ f.stop := by
  have below : value % 2 ^ f.width + 1 ≤ 2 ^ f.width := Nat.mod_lt _ (Nat.two_pow_pos _)
  have scaled := Nat.mul_le_mul_right (2 ^ f.offset) below
  rwa [Nat.add_mul, Nat.one_mul, ← place_eq, Nat.mul_comm, ← Nat.pow_add] at scaled

theorem place_lt (f : Field) (value : Nat) : f.place value < 2 ^ f.stop :=
  Nat.lt_of_lt_of_le (Nat.lt_add_of_pos_right (Nat.two_pow_pos _)) (f.place_add_le value)

/-- Fields from a bit on contribute a multiple of that bit. -/
theorem pow_dvd_sum {bit : Nat} {fields : List Field} (above : ∀ f ∈ fields, bit ≤ f.offset)
    (values : List Nat) : 2 ^ bit ∣ (List.zipWith place fields values).sum := by
  induction fields generalizing values with
  | nil => simp
  | cons f fields ih =>
    cases values with
    | nil => simp
    | cons value values =>
      have head : 2 ^ bit ∣ f.place value := by
        rw [place_eq]
        exact Dvd.dvd.mul_left (Nat.pow_dvd_pow 2 (above f List.mem_cons_self)) _
      have rest := ih (fun g member => above g (List.mem_cons_of_mem f member)) values
      simpa using Nat.dvd_add head rest

/-- A number below a bit does not show from that bit on. -/
theorem add_div_pow {low high bit offset : Nat} (small : low < 2 ^ bit) (multiple : 2 ^ bit ∣ high)
    (le : bit ≤ offset) : (low + high) / 2 ^ offset = high / 2 ^ offset := by
  obtain ⟨factor, rfl⟩ := multiple
  obtain ⟨gap, rfl⟩ := Nat.exists_eq_add_of_le le
  rw [Nat.pow_add, ← Nat.div_div_eq_div_mul, ← Nat.div_div_eq_div_mul,
    Nat.add_mul_div_left _ _ (Nat.two_pow_pos _), Nat.div_eq_of_lt small,
    Nat.mul_div_cancel_left _ (Nat.two_pow_pos _), Nat.zero_add]

theorem place_add_div_mod {f : Field} {high : Nat} (value : Nat) (multiple : 2 ^ f.stop ∣ high) :
    (f.place value + high) / 2 ^ f.offset % 2 ^ f.width = value % 2 ^ f.width := by
  obtain ⟨factor, rfl⟩ := multiple
  have grouped : f.place value + 2 ^ f.stop * factor =
      2 ^ f.offset * (value % 2 ^ f.width + 2 ^ f.width * factor) := by
    unfold stop
    rw [place_eq, Nat.pow_add, Nat.mul_add, Nat.mul_comm (value % _), Nat.mul_assoc]
  rw [grouped, Nat.mul_div_cancel_left _ (Nat.two_pow_pos _), Nat.add_mul_mod_self_left, Nat.mod_mod]

/-- The sum of a layout's contributions shows every field's own value. -/
theorem sum_div_mod {fields : List Field} (stacked : Stacked fields) {values : List Nat}
    {index : Nat} {f : Field} {value : Nat} (field : fields[index]? = some f)
    (held : values[index]? = some value) :
    (List.zipWith place fields values).sum / 2 ^ f.offset % 2 ^ f.width = value % 2 ^ f.width := by
  induction fields generalizing values index with
  | nil => simp at field
  | cons first fields ih =>
    obtain ⟨later, _⟩ := List.pairwise_cons.mp stacked.ascending
    have multiple (values : List Nat) : 2 ^ first.stop ∣ (List.zipWith place fields values).sum :=
      pow_dvd_sum later values
    cases values with
    | nil => simp at held
    | cons head values =>
      simp only [List.zipWith_cons_cons, List.sum_cons]
      cases index with
      | zero =>
        cases field
        cases held
        exact place_add_div_mod _ (multiple values)
      | succ index =>
        have member : f ∈ fields := List.mem_of_getElem? field
        rw [add_div_pow (place_lt first head) (multiple values) (later f member)]
        exact ih stacked.tail field held

/-- Bits from a field's end on do not matter to it. -/
theorem mod_div_mod {f : Field} {bits : Nat} (inside : f.stop ≤ bits) (number : Nat) :
    number % 2 ^ bits / 2 ^ f.offset % 2 ^ f.width = number / 2 ^ f.offset % 2 ^ f.width := by
  unfold stop at inside
  have split : 2 ^ bits = 2 ^ f.offset * 2 ^ (bits - f.offset) := by
    rw [← Nat.pow_add]
    congr 1
    omega
  have narrower : 2 ^ f.width ∣ 2 ^ (bits - f.offset) := Nat.pow_dvd_pow 2 (by omega)
  rw [split, Nat.mod_mul_right_div_self, Nat.mod_mod_of_dvd _ narrower]

theorem get_ofNat {f : Field} (inWord : f.stop ≤ 64) (number : Nat) :
    f.get (.ofNat number) = number / 2 ^ f.offset % 2 ^ f.width := by
  rw [get_eq, UInt64.toNat_ofNat', mod_div_mod inWord]

theorem packFields_eq (contributions : List Nat) : packFields contributions = .ofNat contributions.sum :=
  rfl

/-- In a word packed by a layout a field holds its value, cut to its width. -/
theorem get_packFields {fields : List Field} (stacked : Stacked fields) (values : List Nat)
    (index : Nat) {f : Field} {value : Nat} (field : fields[index]? = some f)
    (held : values[index]? = some value) :
    f.get (packFields (List.zipWith place fields values)) = value % 2 ^ f.width := by
  rw [packFields_eq, get_ofNat (stacked.inWord f (List.mem_of_getElem? field))]
  exact sum_div_mod stacked field held

/-- All fields of a packed word at once. -/
theorem map_get_packFields {fields : List Field} (stacked : Stacked fields) {values : List Nat}
    (length : values.length = fields.length) :
    fields.map (·.get (packFields (List.zipWith place fields values))) =
      List.zipWith (fun value f => value % 2 ^ f.width) values fields := by
  apply List.ext_getElem (by simp [length])
  intro index inFields inBoth
  have inValues : index < values.length := by simpa [length] using inFields
  have field : index < fields.length := length ▸ inValues
  rw [List.getElem_map, List.getElem_zipWith]
  exact get_packFields stacked values index (List.getElem?_eq_getElem field)
    (List.getElem?_eq_getElem inValues)

/-- Fields that follow each other without a gap from a bit on. -/
def Contiguous : (start : Nat) → List Field → Prop
  | _, [] => True
  | start, f :: rest => f.offset = start ∧ Contiguous f.stop rest

instance decidableContiguous : (start : Nat) → (fields : List Field) → Decidable (Contiguous start fields)
  | _, [] => .isTrue trivial
  | start, f :: rest =>
    have := decidableContiguous f.stop rest
    inferInstanceAs (Decidable (f.offset = start ∧ Contiguous f.stop rest))

def span (fields : List Field) : Nat := (fields.map width).sum

section Contiguous

variable {fields : List Field} {start : Nat}

theorem add_span_cons (f : Field) (fields : List Field) :
    f.offset + span (f :: fields) = f.stop + span fields := by
  show f.offset + (f.width + span fields) = f.offset + f.width + span fields
  omega

theorem Contiguous.bounds (contiguous : Contiguous start fields) :
    ∀ f ∈ fields, start ≤ f.offset ∧ f.stop ≤ start + span fields := by
  induction fields generalizing start with
  | nil => simp
  | cons first fields ih =>
    obtain ⟨rfl, rest⟩ := contiguous
    rw [add_span_cons]
    intro f member
    rcases List.mem_cons.mp member with rfl | later
    · exact ⟨Nat.le_refl _, Nat.le_add_right _ _⟩
    · obtain ⟨above, below⟩ := ih rest f later
      exact ⟨(Nat.le_add_right _ _).trans above, below⟩

theorem Contiguous.stacked (contiguous : Contiguous start fields) (inWord : start + span fields ≤ 64) :
    Stacked fields := by
  refine ⟨?_, fun f member => (contiguous.bounds f member).2.trans inWord⟩
  clear inWord
  induction fields generalizing start with
  | nil => exact .nil
  | cons first fields ih =>
    exact .cons (fun f member => (contiguous.2.bounds f member).1) (ih contiguous.2)

/-- What consecutive fields hold, put back in its place, is the number without the bits above them. -/
theorem Contiguous.add_sum_get (contiguous : Contiguous start fields) (word : UInt64) :
    word.toNat % 2 ^ start + (List.zipWith place fields (fields.map (·.get word))).sum =
      word.toNat % 2 ^ (start + span fields) := by
  induction fields generalizing start with
  | nil => simp [span]
  | cons f fields ih =>
    obtain ⟨rfl, rest⟩ := contiguous
    have held : f.place (f.get word) = 2 ^ f.offset * (word.toNat / 2 ^ f.offset % 2 ^ f.width) := by
      rw [place_eq, get_eq, Nat.mod_mod, Nat.mul_comm]
    have reached : word.toNat % 2 ^ f.stop = word.toNat % 2 ^ f.offset + f.place (f.get word) := by
      rw [held, stop, Nat.pow_add, Nat.mod_mul]
    rw [List.map_cons, List.zipWith_cons_cons, List.sum_cons, add_span_cons, ← ih rest, reached,
      Nat.add_assoc]

theorem Contiguous.sum_get (contiguous : Contiguous 0 fields) (word : UInt64) :
    (List.zipWith place fields (fields.map (·.get word))).sum = word.toNat % 2 ^ span fields := by
  simpa [Nat.mod_one] using contiguous.add_sum_get word

/-- The contributions of consecutive fields stay below the first bit above them. -/
theorem Contiguous.sum_add_le (contiguous : Contiguous start fields) (values : List Nat) :
    (List.zipWith place fields values).sum + 2 ^ start ≤ 2 ^ (start + span fields) := by
  induction fields generalizing start values with
  | nil => simp [span]
  | cons f fields ih =>
    obtain ⟨rfl, rest⟩ := contiguous
    rw [add_span_cons]
    cases values with
    | nil =>
      rw [List.zipWith_nil_right, List.sum_nil, Nat.zero_add]
      exact Nat.pow_le_pow_right (by decide) (by unfold stop; omega)
    | cons value values =>
      have first := f.place_add_le value
      have later := ih rest values
      rw [List.zipWith_cons_cons, List.sum_cons]
      omega

end Contiguous

end NpuStack.Field
