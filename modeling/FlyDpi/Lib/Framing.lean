import Mathlib.Data.List.DropRight

/-!
# Framing — streams cut into frames by a separator

`cut` splits a sequence into the frames that separators end and what stands behind the last of
them.  A reader that keeps that rest and puts it in front of the next chunk finds the frames of both
chunks together (`cut_append`).  What a rest left over from another stream does is the first frame's
business alone (`cut_append_left`), and trimming undoes it exactly when that rest is trimmed away as a
whole (`trim_append_left_iff`).
-/

namespace Lib
namespace Framing

variable {α : Type}

/-! ## Trimming -/

section Trim

variable (p : α → Bool)

/-- Without what satisfies `p` at either end. -/
def trim (xs : List α) : List α :=
  (xs.dropWhile p).rdropWhile p

variable {p} {xs ys : List α}

theorem filter_dropWhile (xs : List α) :
    (xs.dropWhile p).filter (fun c => !p c) = xs.filter fun c => !p c := by
  induction xs with
  | nil =>
      rfl
  | cons c xs ih =>
      cases hc : p c with
      | true =>
          simpa [hc] using ih
      | false =>
          simp [hc]

/-- Trimming keeps everything that does not satisfy `p`. -/
theorem filter_trim (xs : List α) :
    (trim p xs).filter (fun c => !p c) = xs.filter fun c => !p c := by
  rw [trim, List.rdropWhile, List.filter_reverse, filter_dropWhile, List.filter_reverse,
    List.reverse_reverse, filter_dropWhile]

/-- A prefix is trimmed away exactly when all of it is. -/
theorem trim_append_left_iff : trim p (xs ++ ys) = trim p ys ↔ ∀ c ∈ xs, p c = true := by
  constructor
  · intro h c hc
    by_contra hkept
    -- what is not trimmed can be counted
    have hfilter := congrArg (List.filter fun c => !p c) h
    rw [filter_trim, filter_trim, List.filter_append, List.append_left_eq_self,
      List.filter_eq_nil_iff] at hfilter
    exact hfilter c hc (by simpa using hkept)
  · intro h
    rw [trim, List.dropWhile_append_of_pos h, trim]

end Trim

/-! ## Cutting -/

variable [DecidableEq α] (sep : α)

/-- The frames that separators end, and what stands behind the last of them. -/
def cut : List α → List (List α) × List α
  | [] => ([], [])
  | b :: bs =>
      if b = sep then ([] :: (cut bs).1, (cut bs).2)
      else
        match (cut bs).1 with
        | [] => ([], b :: (cut bs).2)
        | frame :: frames => ((b :: frame) :: frames, (cut bs).2)

variable {sep} {bs frame buffer : List α}

theorem cut_of_not_mem (h : sep ∉ bs) : cut sep bs = ([], bs) := by
  induction bs with
  | nil =>
      rfl
  | cons b bs ih =>
      rw [List.mem_cons, not_or] at h
      have hrest := ih h.2
      simp [cut, Ne.symm h.1, hrest]

/-- The first frame is what stands in front of the first separator. -/
theorem cut_frame (h : sep ∉ frame) (rest : List α) :
    cut sep (frame ++ sep :: rest) = (frame :: (cut sep rest).1, (cut sep rest).2) := by
  induction frame with
  | nil =>
      simp [cut]
  | cons b frame ih =>
      rw [List.mem_cons, not_or] at h
      have hrest := ih h.2
      simp [cut, Ne.symm h.1, hrest]

/-- The frames and the rest are the stream again. -/
theorem join_cut (bs : List α) :
    ((cut sep bs).1.flatMap fun frame => frame ++ [sep]) ++ (cut sep bs).2 = bs := by
  induction bs with
  | nil =>
      rfl
  | cons b bs ih =>
      by_cases hb : b = sep
      · simp [cut, hb, ih]
      · cases hframes : (cut sep bs).1 with
        | nil =>
            rw [hframes] at ih
            simpa [cut, hb, hframes] using ih
        | cons frame frames =>
            rw [hframes] at ih
            simpa [cut, hb, hframes] using ih

theorem not_mem_rest (bs : List α) : sep ∉ (cut sep bs).2 := by
  induction bs with
  | nil =>
      simp [cut]
  | cons b bs ih =>
      by_cases hb : b = sep
      · simpa [cut, hb] using ih
      · cases hframes : (cut sep bs).1 with
        | nil =>
            simpa [cut, hb, hframes, Ne.symm hb] using ih
        | cons frame frames =>
            simpa [cut, hb, hframes] using ih

theorem frames_eq_nil_iff : (cut sep bs).1 = [] ↔ sep ∉ bs := by
  constructor
  · intro h hmem
    have hjoin := @join_cut _ _ sep bs
    rw [h, List.flatMap_nil, List.nil_append] at hjoin
    rw [← hjoin] at hmem
    exact not_mem_rest bs hmem
  · intro h
    rw [cut_of_not_mem h]

/-- A frame is shorter than the stream, which also has the separator. -/
theorem length_frame_lt (h : frame ∈ (cut sep bs).1) : frame.length < bs.length := by
  have hframe : (frame ++ [sep]).length ≤ ((cut sep bs).1.flatMap fun f => f ++ [sep]).length := by
    apply List.Sublist.length_le
    exact List.sublist_flatten_of_mem (List.mem_map_of_mem h)
  calc frame.length
      < (frame ++ [sep]).length := by simp
    _ ≤ ((cut sep bs).1.flatMap fun f => f ++ [sep]).length := hframe
    _ ≤ bs.length := by
        -- the rest is what the stream has besides
        have hjoin : (cut sep bs).1.flatMap (fun f => f ++ [sep]) ++ (cut sep bs).2 = bs :=
          join_cut bs
        conv_rhs => rw [← hjoin]
        simp

/-- Cutting a stream in two parts: the second is cut behind what the first leaves over. -/
theorem cut_append (xs ys : List α) :
    cut sep (xs ++ ys) =
      ((cut sep xs).1 ++ (cut sep ((cut sep xs).2 ++ ys)).1,
        (cut sep ((cut sep xs).2 ++ ys)).2) := by
  induction xs with
  | nil =>
      simp [cut]
  | cons b xs ih =>
      by_cases hb : b = sep
      · simp [cut, hb, ih]
      · cases hframes : (cut sep xs).1 with
        | nil =>
            -- no frame has ended yet, so `b` stays in front of the open one
            simp [cut, hb, hframes, ih]
        | cons frame frames =>
            simp [cut, hb, hframes, ih]

/-- What is left over from before ends up in the first frame, or in the rest. -/
theorem cut_append_left (h : sep ∉ buffer) (bs : List α) :
    cut sep (buffer ++ bs) =
      match (cut sep bs).1 with
      | [] => ([], buffer ++ bs)
      | frame :: frames => ((buffer ++ frame) :: frames, (cut sep bs).2) := by
  induction buffer with
  | nil =>
      cases hframes : (cut sep bs).1 with
      | nil =>
          exact cut_of_not_mem (frames_eq_nil_iff.1 hframes)
      | cons frame frames =>
          exact Prod.ext hframes rfl
  | cons b buffer ih =>
      rw [List.mem_cons, not_or] at h
      rw [List.cons_append, cut, if_neg (Ne.symm h.1), ih h.2]
      cases (cut sep bs).1 with
      | nil =>
          rfl
      | cons frame frames =>
          rfl

end Framing
end Lib
