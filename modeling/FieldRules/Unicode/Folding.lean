import FieldRules.Text.CharSet

/-!
Simple case folding. Characters that fold to the same character form a group; matching without
regard to case takes a character for every member of its group. A character in no group stands
for itself.
-/

namespace FieldRules.Unicode.Folding

/-- Runs of two-member groups `(first, distance, count, step)`: the members of the `i`-th group of
a run are `first + i * step` and that plus `distance`. -/
def pairRuns : List (Nat × Nat × Nat × Nat) := [
  (0x41, 0x20, 10, 1), (0x4c, 0x20, 7, 1), (0x54, 0x20, 7, 1), (0xc0, 0x20, 5, 1),
  (0xc6, 0x20, 17, 1), (0xd8, 0x20, 7, 1), (0xdf, 0x1dbf, 1, 1), (0xff, 0x79, 1, 1),
  (0x100, 0x1, 24, 2), (0x132, 0x1, 3, 2), (0x139, 0x1, 8, 2), (0x14a, 0x1, 23, 2),
  (0x179, 0x1, 3, 2), (0x180, 0xc3, 1, 1), (0x181, 0xd2, 1, 1), (0x182, 0x1, 2, 2),
  (0x186, 0xce, 1, 1), (0x187, 0x1, 1, 1), (0x189, 0xcd, 2, 1), (0x18b, 0x1, 1, 1),
  (0x18e, 0x4f, 1, 1), (0x18f, 0xca, 1, 1), (0x190, 0xcb, 1, 1), (0x191, 0x1, 1, 1),
  (0x193, 0xcd, 1, 1), (0x194, 0xcf, 1, 1), (0x195, 0x61, 1, 1), (0x196, 0xd3, 1, 1),
  (0x197, 0xd1, 1, 1), (0x198, 0x1, 1, 1), (0x19a, 0xa3, 1, 1), (0x19b, 0xa641, 1, 1),
  (0x19c, 0xd3, 1, 1), (0x19d, 0xd5, 1, 1), (0x19e, 0x82, 1, 1), (0x19f, 0xd6, 1, 1),
  (0x1a0, 0x1, 3, 2), (0x1a6, 0xda, 1, 1), (0x1a7, 0x1, 1, 1), (0x1a9, 0xda, 1, 1),
  (0x1ac, 0x1, 1, 1), (0x1ae, 0xda, 1, 1), (0x1af, 0x1, 1, 1), (0x1b1, 0xd9, 2, 1),
  (0x1b3, 0x1, 2, 2), (0x1b7, 0xdb, 1, 1), (0x1b8, 0x1, 1, 1), (0x1bc, 0x1, 1, 1),
  (0x1bf, 0x38, 1, 1), (0x1cd, 0x1, 8, 2), (0x1de, 0x1, 9, 2), (0x1f4, 0x1, 1, 1),
  (0x1f8, 0x1, 20, 2), (0x222, 0x1, 9, 2), (0x23a, 0x2a2b, 1, 1), (0x23b, 0x1, 1, 1),
  (0x23e, 0x2a28, 1, 1), (0x23f, 0x2a3f, 2, 1), (0x241, 0x1, 1, 1), (0x244, 0x45, 1, 1),
  (0x245, 0x47, 1, 1), (0x246, 0x1, 5, 2), (0x250, 0x2a1f, 1, 1), (0x251, 0x2a1c, 1, 1),
  (0x252, 0x2a1e, 1, 1), (0x25c, 0xa54f, 1, 1), (0x261, 0xa54b, 1, 1), (0x264, 0xa567, 1, 1),
  (0x265, 0xa528, 1, 1), (0x266, 0xa544, 1, 1), (0x26a, 0xa544, 1, 1), (0x26b, 0x29f7, 1, 1),
  (0x26c, 0xa541, 1, 1), (0x271, 0x29fd, 1, 1), (0x27d, 0x29e7, 1, 1), (0x282, 0xa543, 1, 1),
  (0x287, 0xa52a, 1, 1), (0x29d, 0xa515, 1, 1), (0x29e, 0xa512, 1, 1), (0x370, 0x1, 2, 2),
  (0x376, 0x1, 1, 1), (0x37b, 0x82, 3, 1), (0x37f, 0x74, 1, 1), (0x386, 0x26, 1, 1),
  (0x388, 0x25, 3, 1), (0x38c, 0x40, 1, 1), (0x38e, 0x3f, 2, 1), (0x390, 0x1c43, 1, 1),
  (0x391, 0x20, 2, 2), (0x394, 0x20, 2, 2), (0x397, 0x20, 1, 1), (0x39b, 0x20, 2, 2),
  (0x39e, 0x20, 2, 1), (0x3a4, 0x20, 2, 1), (0x3a7, 0x20, 2, 1), (0x3aa, 0x20, 2, 1),
  (0x3b0, 0x1c33, 1, 1), (0x3cf, 0x8, 1, 1), (0x3d8, 0x1, 12, 2), (0x3f2, 0x7, 1, 1),
  (0x3f7, 0x1, 1, 1), (0x3fa, 0x1, 1, 1), (0x400, 0x50, 16, 1), (0x410, 0x20, 2, 1),
  (0x413, 0x20, 2, 2), (0x416, 0x20, 8, 1), (0x41f, 0x20, 2, 1), (0x423, 0x20, 7, 1),
  (0x42b, 0x20, 5, 1), (0x460, 0x1, 1, 1), (0x464, 0x1, 15, 2), (0x48a, 0x1, 27, 2),
  (0x4c0, 0xf, 1, 1), (0x4c1, 0x1, 7, 2), (0x4d0, 0x1, 48, 2), (0x531, 0x30, 38, 1),
  (0x10a0, 0x1c60, 38, 1), (0x10c7, 0x1c60, 1, 1), (0x10cd, 0x1c60, 1, 1), (0x10d0, 0xbc0, 43, 1),
  (0x10fd, 0xbc0, 3, 1), (0x13a0, 0x97d0, 80, 1), (0x13f0, 0x8, 6, 1), (0x1c89, 0x1, 1, 1),
  (0x1d79, 0x8a04, 1, 1), (0x1d7d, 0xee6, 1, 1), (0x1d8e, 0x8a38, 1, 1), (0x1e00, 0x1, 48, 2),
  (0x1e62, 0x1, 26, 2), (0x1ea0, 0x1, 48, 2), (0x1f00, 0x8, 8, 1), (0x1f10, 0x8, 6, 1),
  (0x1f20, 0x8, 8, 1), (0x1f30, 0x8, 8, 1), (0x1f40, 0x8, 6, 1), (0x1f51, 0x8, 4, 2),
  (0x1f60, 0x8, 8, 1), (0x1f70, 0x4a, 2, 1), (0x1f72, 0x56, 4, 1), (0x1f76, 0x64, 2, 1),
  (0x1f78, 0x80, 2, 1), (0x1f7a, 0x70, 2, 1), (0x1f7c, 0x7e, 2, 1), (0x1f80, 0x8, 8, 1),
  (0x1f90, 0x8, 8, 1), (0x1fa0, 0x8, 8, 1), (0x1fb0, 0x8, 2, 1), (0x1fb3, 0x9, 1, 1),
  (0x1fc3, 0x9, 1, 1), (0x1fd0, 0x8, 2, 1), (0x1fe0, 0x8, 2, 1), (0x1fe5, 0x7, 1, 1),
  (0x1ff3, 0x9, 1, 1), (0x2132, 0x1c, 1, 1), (0x2160, 0x10, 16, 1), (0x2183, 0x1, 1, 1),
  (0x24b6, 0x1a, 26, 1), (0x2c00, 0x30, 48, 1), (0x2c60, 0x1, 1, 1), (0x2c67, 0x1, 3, 2),
  (0x2c72, 0x1, 1, 1), (0x2c75, 0x1, 1, 1), (0x2c80, 0x1, 50, 2), (0x2ceb, 0x1, 2, 2),
  (0x2cf2, 0x1, 1, 1), (0xa640, 0x1, 5, 2), (0xa64c, 0x1, 17, 2), (0xa680, 0x1, 14, 2),
  (0xa722, 0x1, 7, 2), (0xa732, 0x1, 31, 2), (0xa779, 0x1, 2, 2), (0xa77e, 0x1, 5, 2),
  (0xa78b, 0x1, 1, 1), (0xa790, 0x1, 2, 2), (0xa794, 0x30, 1, 1), (0xa796, 0x1, 10, 2),
  (0xa7b3, 0x3a0, 1, 1), (0xa7b4, 0x1, 8, 2), (0xa7c7, 0x1, 2, 2), (0xa7cc, 0x1, 1, 1),
  (0xa7d0, 0x1, 1, 1), (0xa7d6, 0x1, 3, 2), (0xa7f5, 0x1, 1, 1), (0xfb05, 0x1, 1, 1),
  (0xff21, 0x20, 26, 1), (0x10400, 0x28, 40, 1), (0x104b0, 0x28, 36, 1), (0x10570, 0x27, 11, 1),
  (0x1057c, 0x27, 15, 1), (0x1058c, 0x27, 7, 1), (0x10594, 0x27, 2, 1), (0x10c80, 0x40, 51, 1),
  (0x10d50, 0x20, 22, 1), (0x118a0, 0x20, 32, 1), (0x16e40, 0x20, 32, 1), (0x1e900, 0x22, 34, 1)]

/-- The groups of three and four members. -/
def largeGroups : List (List Nat) := [
  [0x4b, 0x6b, 0x212a], [0x53, 0x73, 0x17f], [0xb5, 0x39c, 0x3bc], [0xc5, 0xe5, 0x212b],
  [0x1c4, 0x1c5, 0x1c6], [0x1c7, 0x1c8, 0x1c9], [0x1ca, 0x1cb, 0x1cc], [0x1f1, 0x1f2, 0x1f3],
  [0x345, 0x399, 0x3b9, 0x1fbe], [0x392, 0x3b2, 0x3d0], [0x395, 0x3b5, 0x3f5],
  [0x398, 0x3b8, 0x3d1, 0x3f4], [0x39a, 0x3ba, 0x3f0], [0x3a0, 0x3c0, 0x3d6],
  [0x3a1, 0x3c1, 0x3f1], [0x3a3, 0x3c2, 0x3c3], [0x3a6, 0x3c6, 0x3d5], [0x3a9, 0x3c9, 0x2126],
  [0x412, 0x432, 0x1c80], [0x414, 0x434, 0x1c81], [0x41e, 0x43e, 0x1c82], [0x421, 0x441, 0x1c83],
  [0x422, 0x442, 0x1c84, 0x1c85], [0x42a, 0x44a, 0x1c86], [0x462, 0x463, 0x1c87],
  [0x1c88, 0xa64a, 0xa64b], [0x1e60, 0x1e61, 0x1e9b]]

def groups : List (List Nat) :=
  largeGroups ++ pairRuns.flatMap fun (first, distance, count, step) =>
    (List.range count).map fun i => [first + i * step, first + i * step + distance]

/-- Whether a code point is in some range of a set. -/
def covers (set : CharSet) (code : Nat) : Bool :=
  set.ranges.any fun range => decide (range.1 ≤ code) && decide (code ≤ range.2)

/-- A set with every group that it meets. -/
def close (set : CharSet) : CharSet :=
  CharSet.ofRanges (set.ranges ++
    (groups.filter fun group => group.any (covers set)).flatMap fun group =>
      group.map fun code => (code, code))

/-- A set with the other case of each of its ASCII letters. -/
def closeAscii (set : CharSet) : CharSet :=
  CharSet.ofRanges (set.ranges ++
    ((List.range 26).map fun i => [0x41 + i, 0x61 + i]).flatMap fun group =>
      if group.any (covers set) then group.map fun code => (code, code) else [])

end FieldRules.Unicode.Folding
