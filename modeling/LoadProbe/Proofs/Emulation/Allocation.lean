import LoadProbe.Proofs.Footprint
import LoadProbe.Proofs.Numeral.Written

/-!
What it takes to allocate. A helper program reads its size as a number with a sign, which cuts off no
size that has a buffer. Main statements, for a helper and for the service alike: `makes_iff` and
`allocate_of_serves`.
-/
namespace LoadProbe

namespace MemoryHelper

theorem trim_digits (n : Nat) : Text.trim (Numeral.digits n) = Numeral.digits n := by
  have ink {c : Char} (member : c ∈ Numeral.digits n) : Text.isBlank c = false :=
    Numeral.of_mem_alphabet (fun c => Text.isBlank c = false) (by decide)
      (Numeral.mem_alphabet_of_isDigit (Numeral.isDigit_of_mem_digits member))
  exact Text.trim_eq_self (fun c first => ink (List.mem_of_head? first))
    fun c last => ink (List.mem_of_getLast? last)

/-- The program takes a written number of MiB for what it is, as far as it has a sign bit to spare. -/
theorem readSize_digits {mib : UInt64} (small : mib.toNat < 1 <<< 63) :
    readSize (some (String.ofList (Numeral.digits mib.toNat))) = .ok mib := by
  have whole : (Int64.ofInt mib.toNat).toInt = mib.toNat :=
    Int64.toInt_ofInt_of_le (by omega) (by omega)
  have read := Numeral.readInt64_digits_eq_ok_iff.mpr whole
  simp [readSize, trim_digits, read, whole]

theorem readSize_digits_error {mib : UInt64} (large : 1 <<< 63 ≤ mib.toNat) :
    ∃ cause, readSize (some (String.ofList (Numeral.digits mib.toNat))) = .error cause := by
  cases read : Numeral.readInt64 (Numeral.digits mib.toNat) with
  | error cause =>
    simp only [readSize, String.toList_ofList, trim_digits, read]
    exact ⟨_, rfl⟩
  | ok number =>
    have whole := Numeral.readInt64_digits_eq_ok_iff.mp read
    have bound := number.toInt_lt
    omega

/-- The program makes the buffer that there is for a number of MiB, or fails. -/
theorem run_digits (mib : UInt64) :
    (∃ bytes, Footprint.allocate? mib = some bytes ∧
      run (some (String.ofList (Numeral.digits mib.toNat))) = .allocated mib bytes) ∨
    (Footprint.allocate? mib = none ∧
      (run (some (String.ofList (Numeral.digits mib.toNat)))).ending.isSuccess = false) := by
  rcases Nat.lt_or_ge mib.toNat (1 <<< 63) with small | large
  · have read := readSize_digits small
    unfold run
    -- The buffers stay closed here, or their bytes would be counted one by one.
    obtain ⟨allocate?, closed⟩ : ∃ allocate?, Footprint.allocate? = allocate? := ⟨_, rfl⟩
    rw [read, closed]
    cases buffer : allocate? mib with
    | some bytes => exact .inl ⟨bytes, rfl, by simp only [buffer]⟩
    | none => exact .inr ⟨rfl, by simp [buffer, Result.ending, Ending.isSuccess]⟩
  · obtain ⟨cause, read⟩ := readSize_digits_error large
    refine .inr ⟨Footprint.allocate?_eq_none_iff.mpr (by omega), ?_⟩
    rw [run, read]
    rfl

end MemoryHelper

/-- A program that is the memory helper runs on its argument and leaves the files alone. -/
theorem FileTree.launch_memoryHelper {tree : FileTree} {path : String}
    (present : tree.findProgram path = .ok (.program .memoryHelper)) (argument : String) :
    tree.launch path argument = .ok ((MemoryHelper.run (some argument)).ending, tree) := by
  rw [launch, present]
  rfl

namespace Allocator

/-- An allocator that can be relied on: the service itself, or a path where the memory helper
stands. -/
def Serves (tree : FileTree) : Allocator → Prop
  | .helper path => tree.findProgram path = .ok (.program .memoryHelper)
  | .inProcess => True

/-- The bytes of the buffer that is made for a number of MiB, by the program that is started or
within the service. -/
def Makes (tree : FileTree) (mib : UInt64) (bytes : Nat) : Allocator → Prop
  | .helper path =>
    let argument := String.ofList (Numeral.digits mib.toNat)
    tree.launch path argument = .ok ((MemoryHelper.run (some argument)).ending, tree) ∧
      MemoryHelper.run (some argument) = .allocated mib bytes
  | .inProcess => Footprint.allocate? mib = some bytes

variable {tree : FileTree} {allocator : Allocator}

/-- Every allocator that can be relied on makes the same buffers. -/
theorem makes_iff (serves : allocator.Serves tree) {mib : UInt64} {bytes : Nat} :
    allocator.Makes tree mib bytes ↔ Footprint.allocate? mib = some bytes := by
  cases allocator with
  | helper path =>
    rw [Makes, and_iff_right (FileTree.launch_memoryHelper serves _)]
    rcases MemoryHelper.run_digits mib with ⟨others, buffer, ran⟩ | ⟨buffer, ended⟩
    · rw [ran, buffer, MemoryHelper.Result.allocated.injEq, Option.some.injEq]
      exact and_iff_right rfl
    · rw [buffer]
      refine iff_of_false (fun made => ?_) nofun
      rw [made] at ended
      cases ended
  | inProcess => rfl

/-- An allocator that can be relied on fails only for want of a buffer, and leaves the files alone. -/
theorem allocate_of_serves (serves : allocator.Serves tree) (mib : UInt64) :
    ((∃ bytes, Footprint.allocate? mib = some bytes) ∧
      allocator.allocate mib tree = (.ok (), tree)) ∨
    (Footprint.allocate? mib = none ∧ ∃ cause, allocator.allocate mib tree = (.error cause, tree)) := by
  have started := MemoryHelper.run_digits mib
  unfold allocate
  obtain ⟨allocate?, closed⟩ : ∃ allocate?, Footprint.allocate? = allocate? := ⟨_, rfl⟩
  rw [closed] at started ⊢
  cases allocator with
  | helper path =>
    have launched := FileTree.launch_memoryHelper serves (String.ofList (Numeral.digits mib.toNat))
    simp only [launched]
    rcases started with ⟨bytes, buffer, ran⟩ | ⟨buffer, ended⟩
    · exact .inl ⟨⟨bytes, buffer⟩, by rw [ran]; rfl⟩
    · exact .inr ⟨buffer, _, by rw [ended]; rfl⟩
  | inProcess =>
    cases buffer : allocate? mib with
    | some bytes => exact .inl ⟨⟨bytes, rfl⟩, rfl⟩
    | none => exact .inr ⟨rfl, _, rfl⟩

end Allocator
end LoadProbe
