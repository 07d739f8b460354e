import FlyDpi.Lib.Bytes

/-!
# CLayout — memory images of C structures

A structure is a list of fields, each with its alignment and its bytes.  Every field is placed at
the next multiple of its alignment, and the whole is padded to a multiple of the largest one.  What
the padding bytes hold is not determined: an image is taken for a given content of all of them,
indexed by offset.
-/

namespace Lib
namespace CLayout

structure Field where
  align : Nat
  bytes : Bytes

/-- Number of bytes from `pos` to the next multiple of `align`. -/
def padTo (align pos : Nat) : Nat :=
  (align - pos % align) % align

/-- The `n` padding bytes from `pos` on. -/
def gap (padding : Nat → UInt8) (pos n : Nat) : Bytes :=
  (List.range n).map fun i => padding (pos + i)

def place (padding : Nat → UInt8) : Nat → List Field → Bytes
  | _, [] => []
  | pos, field :: fields =>
      let start := pos + padTo field.align pos
      gap padding pos (padTo field.align pos) ++
        (field.bytes ++ place padding (start + field.bytes.length) fields)

def maxAlign (fields : List Field) : Nat :=
  fields.foldr (fun field m => max field.align m) 1

def image (padding : Nat → UInt8) (fields : List Field) : Bytes :=
  let body := place padding 0 fields
  -- so that in an array of such structures every element is aligned
  body ++ gap padding body.length (padTo (maxAlign fields) body.length)

variable {padding : Nat → UInt8} {pos : Nat} {field : Field} {fields : List Field}

@[simp] theorem gap_zero : gap padding pos 0 = [] := rfl

@[simp] theorem gap_one : gap padding pos 1 = [padding pos] := rfl

/-- A field at an aligned position starts there. -/
theorem place_aligned (h : padTo field.align pos = 0) :
    place padding pos (field :: fields) =
      field.bytes ++ place padding (pos + field.bytes.length) fields := by
  simp [place, h]

/-- A field one byte short of alignment follows one padding byte. -/
theorem place_after_one (h : padTo field.align pos = 1) :
    place padding pos (field :: fields) =
      padding pos :: (field.bytes ++ place padding (pos + 1 + field.bytes.length) fields) := by
  simp [place, h]

end CLayout
end Lib
