import EntityGraph.Text.Utf8
import Mathlib.Data.List.Basic

/-!
# Reading text back from bytes

The bytes of a text are read as that text (`decodeLossy_encode`), the lossy reading agrees with the
strict one where there is one (`decodeLossy_of_decode`), and it makes no more characters than there
are bytes (`length_decodeLossy_le`).
-/

namespace EntityGraph.Text.Utf8

/-! ### Characters of one, two, three and four bytes -/

theorem run_ofNat (s : State) {n : Nat} (hn : n < 256) (bs : List UInt8) :
    run s (UInt8.ofNat n :: bs) = (step s n).1 ++ run (step s n).2 bs := by
  rw [run, UInt8.toNat_ofNat_of_lt' hn]

theorem begin_two : ∀ k < 32, 2 ≤ k → begin (k + 192) = ([], .inside 1 0x80 0xBF k 1) := by
  decide

theorem begin_three : ∀ k < 16, begin (k + 224) =
    ([], .inside 2 (if k = 0 then 0xA0 else 0x80) (if k = 13 then 0x9F else 0xBF) k 1) := by
  decide

theorem begin_four : ∀ k < 5, begin (k + 240) =
    ([], .inside 3 (if k = 0 then 0x90 else 0x80) (if k = 4 then 0x8F else 0xBF) k 1) := by
  decide

/-- The last byte of a character. -/
theorem run_last {low high code seen b : Nat} (hlow : low ≤ b) (hhigh : b ≤ high) (hb : b < 256)
    (bs : List UInt8) : run (.inside 1 low high code seen) (UInt8.ofNat b :: bs)
      = .char (Char.ofNat (code * 64 + b % 64)) :: run .start bs := by
  rw [run_ofNat _ hb, step, if_pos ⟨hlow, hhigh⟩]
  rfl

/-- A byte inside a character. -/
theorem run_next {need low high code seen b : Nat} (hneed : 2 ≤ need) (hlow : low ≤ b)
    (hhigh : b ≤ high) (hb : b < 256) (bs : List UInt8) :
    run (.inside need low high code seen) (UInt8.ofNat b :: bs)
      = run (.inside (need - 1) 0x80 0xBF (code * 64 + b % 64) (seen + 1)) bs := by
  rw [run_ofNat _ hb, step, if_pos ⟨hlow, hhigh⟩]
  dsimp only
  rw [if_neg (by omega), List.nil_append]

/-- The bytes of a character are read as that character. -/
theorem run_utf8EncodeChar (c : Char) (rest : List UInt8) :
    run .start (String.utf8EncodeChar c ++ rest) = .char c :: run .start rest := by
  have hvalid : c.val.toNat < 0xD800 ∨ 0xDFFF < c.val.toNat ∧ c.val.toNat < 0x110000 := c.valid
  have hc : c = Char.ofNat c.val.toNat := (Char.ofNat_toNat c).symm
  unfold String.utf8EncodeChar
  generalize c.val.toNat = v at hvalid hc
  subst hc
  dsimp only
  split
  · rw [List.singleton_append, run_ofNat _ (by omega), step, begin, if_pos (by omega)]
    rfl
  split
  · rw [List.cons_append, List.singleton_append, run_ofNat _ (by omega), step,
      begin_two _ (by omega) (by omega), List.nil_append,
      run_last (by omega) (by omega) (by omega)]
    congr 3
    omega
  split
  · rw [List.cons_append, List.cons_append, List.singleton_append, run_ofNat _ (by omega), step,
      begin_three _ (by omega), List.nil_append,
      run_next (by omega) (by split <;> omega) (by split <;> omega) (by omega),
      run_last (by omega) (by omega) (by omega)]
    congr 3
    omega
  · rw [List.cons_append, List.cons_append, List.cons_append, List.singleton_append,
      run_ofNat _ (by omega), step, begin_four _ (by omega), List.nil_append,
      run_next (by omega) (by split <;> omega) (by split <;> omega) (by omega),
      run_next (by omega) (by omega) (by omega) (by omega),
      run_last (by omega) (by omega) (by omega)]
    congr 3
    omega

theorem chunks_encode (s : String) : chunks (encode s) = s.toList.map Chunk.char := by
  rw [chunks, encode]
  induction s.toList with
  | nil => rfl
  | cons c cs ih => rw [List.flatMap_cons, run_utf8EncodeChar, ih, List.map_cons]

/-- The bytes of a text are read as that text. -/
theorem decodeLossy_encode (s : String) : decodeLossy (encode s) = s := by
  rw [decodeLossy, chunks_encode, List.map_map]
  exact (congrArg String.ofList (List.map_id _)).trans String.ofList_toList

/-! ### Strict and lossy reading -/

theorem lossy_of_collect {index : Nat} {read : List Chunk} {cs : List Char}
    (h : collect index read = .ok cs) : read.map Chunk.lossy = cs := by
  induction read generalizing index cs with
  | nil => exact Except.ok.inj h
  | cons chunk read ih =>
    cases chunk with
    | char c =>
      rw [collect] at h
      cases hrest : collect (index + c.utf8Size) read with
      | error e => simp [hrest, Except.map] at h
      | ok rest =>
        obtain rfl : c :: rest = cs := by simpa [hrest, Except.map] using h
        rw [List.map_cons, ih hrest]
        rfl
    | broken n => cases h
    | cut n => cases h

/-- Where the strict reading succeeds, the lossy one reads the same. -/
theorem decodeLossy_of_decode {bytes : List UInt8} {s : String} (h : decode bytes = .ok s) :
    decodeLossy bytes = s := by
  rw [decode] at h
  cases hread : collect 0 (chunks bytes) with
  | error e => simp [hread, Except.map] at h
  | ok cs =>
    obtain rfl : String.ofList cs = s := by simpa [hread, Except.map] using h
    rw [decodeLossy, lossy_of_collect hread]

/-! ### Bytes and characters -/

/-- The characters that are still to come from bytes that were read before. -/
def State.pending : State → Nat
  | .start => 0
  | .inside .. => 1

theorem length_begin (b : Nat) : (begin b).1.length + (begin b).2.pending = 1 := by
  unfold begin
  repeat' split
  all_goals rfl

/-- A byte adds at most one character. -/
theorem length_step_le (s : State) (b : Nat) :
    (step s b).1.length + (step s b).2.pending ≤ s.pending + 1 := by
  cases s with
  | start => exact Nat.le_of_eq (length_begin b)
  | inside need low high code seen =>
    have hbegin := length_begin b
    unfold step
    repeat' split
    all_goals simp only [State.pending, List.length_cons, List.length_nil] at *
    all_goals omega

theorem length_run_le (s : State) (bytes : List UInt8) :
    (run s bytes).length ≤ s.pending + bytes.length := by
  induction bytes generalizing s with
  | nil => cases s <;> simp [run, State.pending]
  | cons b bytes ih =>
    have hstep := length_step_le s b.toNat
    have hrest := ih (step s b.toNat).2
    rw [run, List.length_append, List.length_cons]
    omega

theorem length_decodeLossy_le (bytes : List UInt8) :
    (decodeLossy bytes).toList.length ≤ bytes.length := by
  have h := length_run_le .start bytes
  simpa [decodeLossy, chunks, State.pending] using h

end EntityGraph.Text.Utf8
