import DisplayProcessor.FixedPoint

/-!
# Triangle edges

A triangle command starts with eight words that describe its three edges:

```text
word  0:   bit 23 flip, bits 16-18 tile, bits 0-13 y of the low edge (signed 11.2)
word  1:   bits 16-29 y of the middle edge, bits 0-13 y of the high edge
words 2-7: x and slope of the low, the high and the middle edge (signed 15.16 in the low 28 bits)
```

- `Edge`, `Edges`: the decoded values.
- `Edges.ofBlock`: the edges in a row.
-/

namespace DisplayProcessor

/-- Where an edge starts, and by how much x grows with y along it. -/
structure Edge where
  y : Binary32
  x : Binary32
  slope : Binary32
deriving DecidableEq, Inhabited

/-- The edge setup of a triangle. -/
structure Edges where
  /-- The major edge; its `y` is the top of the triangle. -/
  high : Edge
  middle : Edge
  /-- The low edge; its `y` is the bottom of the triangle. -/
  low : Edge
  /-- Whether the major edge is on the left. -/
  flip : Bool
  /-- The tile that a textured triangle samples. -/
  tile : Nat
  /-- Whether the rasterizer corrects the edges: `flip`, or else a falling major edge, but not
  both. -/
  doOffset : Bool
deriving DecidableEq, Inhabited

namespace Edges

/-- The y coordinate in the fourteen bits of a word that start at bit `lo`. -/
def yField (w : Word) (lo : Nat) : Binary32 :=
  (Word.signedFixed (.ofNat (w.field lo 14))) 14 2

/-- The x coordinate or slope in the low 28 bits of a word. -/
def xField (w : Word) : Binary32 :=
  w.signedFixed 28 16

/-- The edges in the first eight words of a row. -/
def ofBlock (block : Row) : Edges where
  high := ⟨yField (block.word 1) 0, xField (block.word 4), xField (block.word 5)⟩
  middle := ⟨yField (block.word 1) 16, xField (block.word 6), xField (block.word 7)⟩
  low := ⟨yField (block.word 0) 0, xField (block.word 2), xField (block.word 3)⟩
  flip := (block.word 0).flag 23
  tile := (block.word 0).field 16 3
  doOffset := (block.word 0).flag 23 ^^ (block.word 5).flag 27

end Edges

end DisplayProcessor
