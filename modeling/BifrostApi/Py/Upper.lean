import BifrostApi.Py.Dict

/-!
# Upper case

`str.upper` on one character, for every code point: a table of pages of 256 code points, each with the
characters whose upper case is several and with runs (first, last, step, distance) of those that have one.
Upper case is stable, and neither makes nor removes white space (`upperChar_cases`).
-/

namespace Py

/-- The code points of white space. -/
def spaceCode (n : Nat) : Bool :=
  (9 ≤ n && n ≤ 13) || (28 ≤ n && n ≤ 32) || n = 0x85 || n = 0xA0 || n = 0x1680 ||
    (0x2000 ≤ n && n ≤ 0x200A) || n = 0x2028 || n = 0x2029 || n = 0x202F || n = 0x205F || n = 0x3000

/-- The code points `256 * page` to `256 * page + 255` that have an upper case. -/
structure UpperPage where
  page : Nat
  special : Dict Nat (List Nat)
  runs : List (Nat × Nat × Nat × Int)

/-- The pages outside ASCII. -/
def upperPages : List UpperPage :=
  [⟨0, [(223, [83, 83])],
    [(181, 181, 1, 743), (224, 246, 1, -32), (248, 254, 1, -32), (255, 255, 1, 121)]⟩,
   ⟨1, [(329, [700, 78]), (496, [74, 780])],
    [(257, 303, 2, -1), (305, 305, 1, -232), (307, 311, 2, -1), (314, 328, 2, -1), (331, 375, 2, -1),
     (378, 382, 2, -1), (383, 383, 1, -300), (384, 384, 1, 195), (387, 389, 2, -1), (392, 392, 1, -1),
     (396, 396, 1, -1), (402, 402, 1, -1), (405, 405, 1, 97), (409, 409, 1, -1), (410, 410, 1, 163),
     (414, 414, 1, 130), (417, 421, 2, -1), (424, 424, 1, -1), (429, 429, 1, -1), (432, 432, 1, -1),
     (436, 438, 2, -1), (441, 441, 1, -1), (445, 445, 1, -1), (447, 447, 1, 56), (453, 453, 1, -1),
     (454, 454, 1, -2), (456, 456, 1, -1), (457, 457, 1, -2), (459, 459, 1, -1), (460, 460, 1, -2),
     (462, 476, 2, -1), (477, 477, 1, -79), (479, 495, 2, -1), (498, 498, 1, -1), (499, 499, 1, -2),
     (501, 501, 1, -1), (505, 511, 2, -1)]⟩,
   ⟨2, [], [(513, 543, 2, -1), (547, 563, 2, -1), (572, 572, 1, -1), (575, 576, 1, 10815), (578, 578, 1, -1),
     (583, 591, 2, -1), (592, 592, 1, 10783), (593, 593, 1, 10780), (594, 594, 1, 10782), (595, 595, 1, -210),
     (596, 596, 1, -206), (598, 599, 1, -205), (601, 601, 1, -202), (603, 603, 1, -203), (604, 604, 1, 42319),
     (608, 608, 1, -205), (609, 609, 1, 42315), (611, 611, 1, -207), (613, 613, 1, 42280), (614, 614, 1, 42308),
     (616, 616, 1, -209), (617, 617, 1, -211), (618, 618, 1, 42308), (619, 619, 1, 10743), (620, 620, 1, 42305),
     (623, 623, 1, -211), (625, 625, 1, 10749), (626, 626, 1, -213), (629, 629, 1, -214), (637, 637, 1, 10727),
     (640, 640, 1, -218), (642, 642, 1, 42307), (643, 643, 1, -218), (647, 647, 1, 42282), (648, 648, 1, -218),
     (649, 649, 1, -69), (650, 651, 1, -217), (652, 652, 1, -71), (658, 658, 1, -219), (669, 669, 1, 42261),
     (670, 670, 1, 42258)]⟩,
   ⟨3, [(912, [921, 776, 769]), (944, [933, 776, 769])],
    [(837, 837, 1, 84), (881, 883, 2, -1), (887, 887, 1, -1), (891, 893, 1, 130), (940, 940, 1, -38),
     (941, 943, 1, -37), (945, 961, 1, -32), (962, 962, 1, -31), (963, 971, 1, -32), (972, 972, 1, -64),
     (973, 974, 1, -63), (976, 976, 1, -62), (977, 977, 1, -57), (981, 981, 1, -47), (982, 982, 1, -54),
     (983, 983, 1, -8), (985, 1007, 2, -1), (1008, 1008, 1, -86), (1009, 1009, 1, -80), (1010, 1010, 1, 7),
     (1011, 1011, 1, -116), (1013, 1013, 1, -96), (1016, 1016, 1, -1), (1019, 1019, 1, -1)]⟩,
   ⟨4, [], [(1072, 1103, 1, -32), (1104, 1119, 1, -80), (1121, 1153, 2, -1), (1163, 1215, 2, -1),
     (1218, 1230, 2, -1), (1231, 1231, 1, -15), (1233, 1279, 2, -1)]⟩,
   ⟨5, [(1415, [1333, 1362])],
    [(1281, 1327, 2, -1), (1377, 1414, 1, -48)]⟩,
   ⟨16, [], [(4304, 4346, 1, 3008), (4349, 4351, 1, 3008)]⟩,
   ⟨19, [], [(5112, 5117, 1, -8)]⟩,
   ⟨28, [], [(7296, 7296, 1, -6254), (7297, 7297, 1, -6253), (7298, 7298, 1, -6244), (7299, 7300, 1, -6242),
     (7301, 7301, 1, -6243), (7302, 7302, 1, -6236), (7303, 7303, 1, -6181), (7304, 7304, 1, 35266)]⟩,
   ⟨29, [], [(7545, 7545, 1, 35332), (7549, 7549, 1, 3814), (7566, 7566, 1, 35384)]⟩,
   ⟨30, [(7830, [72, 817]), (7831, [84, 776]), (7832, [87, 778]), (7833, [89, 778]), (7834, [65, 702])],
    [(7681, 7829, 2, -1), (7835, 7835, 1, -59), (7841, 7935, 2, -1)]⟩,
   ⟨31, [(8016, [933, 787]), (8018, [933, 787, 768]), (8020, [933, 787, 769]), (8022, [933, 787, 834]),
     (8064, [7944, 921]), (8065, [7945, 921]), (8066, [7946, 921]), (8067, [7947, 921]), (8068, [7948, 921]),
     (8069, [7949, 921]), (8070, [7950, 921]), (8071, [7951, 921]), (8072, [7944, 921]), (8073, [7945, 921]),
     (8074, [7946, 921]), (8075, [7947, 921]), (8076, [7948, 921]), (8077, [7949, 921]), (8078, [7950, 921]),
     (8079, [7951, 921]), (8080, [7976, 921]), (8081, [7977, 921]), (8082, [7978, 921]), (8083, [7979, 921]),
     (8084, [7980, 921]), (8085, [7981, 921]), (8086, [7982, 921]), (8087, [7983, 921]), (8088, [7976, 921]),
     (8089, [7977, 921]), (8090, [7978, 921]), (8091, [7979, 921]), (8092, [7980, 921]), (8093, [7981, 921]),
     (8094, [7982, 921]), (8095, [7983, 921]), (8096, [8040, 921]), (8097, [8041, 921]), (8098, [8042, 921]),
     (8099, [8043, 921]), (8100, [8044, 921]), (8101, [8045, 921]), (8102, [8046, 921]), (8103, [8047, 921]),
     (8104, [8040, 921]), (8105, [8041, 921]), (8106, [8042, 921]), (8107, [8043, 921]), (8108, [8044, 921]),
     (8109, [8045, 921]), (8110, [8046, 921]), (8111, [8047, 921]), (8114, [8122, 921]), (8115, [913, 921]),
     (8116, [902, 921]), (8118, [913, 834]), (8119, [913, 834, 921]), (8124, [913, 921]), (8130, [8138, 921]),
     (8131, [919, 921]), (8132, [905, 921]), (8134, [919, 834]), (8135, [919, 834, 921]), (8140, [919, 921]),
     (8146, [921, 776, 768]), (8147, [921, 776, 769]), (8150, [921, 834]), (8151, [921, 776, 834]),
     (8162, [933, 776, 768]), (8163, [933, 776, 769]), (8164, [929, 787]), (8166, [933, 834]),
     (8167, [933, 776, 834]), (8178, [8186, 921]), (8179, [937, 921]), (8180, [911, 921]), (8182, [937, 834]),
     (8183, [937, 834, 921]), (8188, [937, 921])],
    [(7936, 7943, 1, 8), (7952, 7957, 1, 8), (7968, 7975, 1, 8), (7984, 7991, 1, 8), (8000, 8005, 1, 8),
     (8017, 8023, 2, 8), (8032, 8039, 1, 8), (8048, 8049, 1, 74), (8050, 8053, 1, 86), (8054, 8055, 1, 100),
     (8056, 8057, 1, 128), (8058, 8059, 1, 112), (8060, 8061, 1, 126), (8112, 8113, 1, 8),
     (8126, 8126, 1, -7205), (8144, 8145, 1, 8), (8160, 8161, 1, 8), (8165, 8165, 1, 7)]⟩,
   ⟨33, [], [(8526, 8526, 1, -28), (8560, 8575, 1, -16), (8580, 8580, 1, -1)]⟩,
   ⟨36, [], [(9424, 9449, 1, -26)]⟩,
   ⟨44, [], [(11312, 11359, 1, -48), (11361, 11361, 1, -1), (11365, 11365, 1, -10795),
     (11366, 11366, 1, -10792), (11368, 11372, 2, -1), (11379, 11379, 1, -1), (11382, 11382, 1, -1),
     (11393, 11491, 2, -1), (11500, 11502, 2, -1), (11507, 11507, 1, -1)]⟩,
   ⟨45, [], [(11520, 11557, 1, -7264), (11559, 11559, 1, -7264), (11565, 11565, 1, -7264)]⟩,
   ⟨166, [], [(42561, 42605, 2, -1), (42625, 42651, 2, -1)]⟩,
   ⟨167, [], [(42787, 42799, 2, -1), (42803, 42863, 2, -1), (42874, 42876, 2, -1), (42879, 42887, 2, -1),
     (42892, 42892, 1, -1), (42897, 42899, 2, -1), (42900, 42900, 1, 48), (42903, 42921, 2, -1),
     (42933, 42947, 2, -1), (42952, 42954, 2, -1), (42961, 42961, 1, -1), (42967, 42969, 2, -1),
     (42998, 42998, 1, -1)]⟩,
   ⟨171, [], [(43859, 43859, 1, -928), (43888, 43967, 1, -38864)]⟩,
   ⟨251, [(64256, [70, 70]), (64257, [70, 73]), (64258, [70, 76]), (64259, [70, 70, 73]), (64260, [70, 70, 76]),
     (64261, [83, 84]), (64262, [83, 84]), (64275, [1348, 1350]), (64276, [1348, 1333]), (64277, [1348, 1339]),
     (64278, [1358, 1350]), (64279, [1348, 1341])],
    []⟩,
   ⟨255, [], [(65345, 65370, 1, -32)]⟩,
   ⟨260, [], [(66600, 66639, 1, -40), (66776, 66811, 1, -40)]⟩,
   ⟨261, [], [(66967, 67003, 2, -39), (66968, 66976, 2, -39), (66980, 66992, 2, -39), (66996, 67000, 2, -39),
     (67004, 67004, 1, -39)]⟩,
   ⟨268, [], [(68800, 68850, 1, -64)]⟩,
   ⟨280, [], [(71872, 71903, 1, -32)]⟩,
   ⟨366, [], [(93792, 93823, 1, -32)]⟩,
   ⟨489, [], [(125218, 125251, 1, -34)]⟩]

/-- The upper case of a code point on its page. -/
def UpperPage.upper (p : UpperPage) (n : Nat) : List Nat :=
  match p.special.lookup n with
  | some ns => ns
  | none =>
    match p.runs.find? fun r => r.1 ≤ n && n ≤ r.2.1 && (n - r.1) % r.2.2.1 == 0 with
    | some r => [(n + r.2.2.2).toNat]
    | none => [n]

/-- The upper case of a code point. -/
def upperCode (n : Nat) : List Nat :=
  if n < 128 then [if 97 ≤ n && n ≤ 122 then n - 32 else n]
  else match upperPages.find? fun p => p.page == n / 256 with
    | some p => p.upper n
    | none => [n]

/-- The upper case of a character. -/
def upperChar (c : Char) : List Char := (upperCode c.toNat).map Char.ofNat

/-! ## Upper case is stable -/

/-- What a code point in upper case is: its own upper case, and neither white space nor `|`. -/
def settledCode (n : Nat) : Bool := n.isValidChar && upperCode n == [n] && !spaceCode n && n != 124

/-- `settledCode` on the value of `n`. -/
def settledValue : Nat → Bool
  | 0 => false
  | n + 1 => settledCode (n + 1)

theorem settledCode_of_value : ∀ {n : Nat}, settledValue n = true → settledCode n = true
  | 0, h => by cases h
  | _ + 1, h => h

theorem ascii_settled : ∀ n < 128,
    upperCode n = [n] ∨ upperCode n ≠ [] ∧ ∀ m ∈ upperCode n, settledCode m = true := by
  decide +kernel

theorem special_settled : (upperPages.all fun p =>
    p.special.all fun e => !e.2.isEmpty && e.2.all settledValue) = true := by
  decide +kernel

theorem runs_settled : (upperPages.all fun p => p.runs.all fun r => r.2.2.1 != 0 &&
    (List.range ((r.2.1 - r.1) / r.2.2.1 + 1)).all fun i =>
      settledValue ((r.1 + i * r.2.2.1 : Nat) + r.2.2.2).toNat) = true := by
  decide +kernel

/-- A run maps the code points of its range and step to settled ones. -/
theorem run_settled {p : UpperPage} (hp : p ∈ upperPages) {r : Nat × Nat × Nat × Int} (hr : r ∈ p.runs) {n : Nat}
    (hlo : r.1 ≤ n) (hhi : n ≤ r.2.1) (hstep : (n - r.1) % r.2.2.1 = 0) :
    settledCode (n + r.2.2.2).toNat = true := by
  have hall := List.all_eq_true.1 (List.all_eq_true.1 runs_settled p hp) r hr
  rw [Bool.and_eq_true, bne_iff_ne] at hall
  obtain ⟨hne, hrange⟩ := hall
  obtain ⟨i, hi⟩ := Nat.dvd_of_mod_eq_zero hstep
  have hn : r.1 + i * r.2.2.1 = n := by
    rw [Nat.mul_comm, ← hi]
    omega
  have hlt : i < (r.2.1 - r.1) / r.2.2.1 + 1 := by
    apply Nat.lt_succ_of_le
    rw [Nat.le_div_iff_mul_le (Nat.pos_of_ne_zero hne)]
    omega
  have hvalue := List.all_eq_true.1 hrange i (List.mem_range.2 hlt)
  rw [hn] at hvalue
  exact settledCode_of_value hvalue

/-- A code point is its own upper case, or its upper case is settled. -/
theorem upperCode_cases (n : Nat) :
    upperCode n = [n] ∨ upperCode n ≠ [] ∧ ∀ m ∈ upperCode n, settledCode m = true := by
  by_cases hascii : n < 128
  · exact ascii_settled n hascii
  · rw [upperCode, if_neg hascii]
    cases hpage : upperPages.find? fun p => p.page == n / 256 with
    | none => exact Or.inl rfl
    | some p =>
      have hp := List.mem_of_find?_eq_some hpage
      dsimp only
      rw [UpperPage.upper]
      cases hspecial : p.special.lookup n with
      | some ns =>
        have hmem : (n, ns) ∈ p.special := Dict.mem_of_lookup hspecial
        have hall := List.all_eq_true.1 (List.all_eq_true.1 special_settled p hp) _ hmem
        simp only [Bool.and_eq_true, Bool.not_eq_true', List.all_eq_true] at hall
        refine Or.inr ⟨fun hnil => ?_, fun m hm => settledCode_of_value (hall.2 m hm)⟩
        simp [hnil] at hall
      | none =>
        dsimp only
        cases hrun : p.runs.find? fun r => r.1 ≤ n && n ≤ r.2.1 && (n - r.1) % r.2.2.1 == 0 with
        | none => exact Or.inl rfl
        | some r =>
          have hpred := List.find?_some hrun
          simp only [Bool.and_eq_true, decide_eq_true_eq, beq_iff_eq] at hpred
          refine Or.inr ⟨by simp, fun m hm => ?_⟩
          rw [List.mem_singleton.1 hm]
          exact run_settled hp (List.mem_of_find?_eq_some hrun) hpred.1.1 hpred.1.2 hpred.2

/-- White space in a character. -/
def isSpace (c : Char) : Bool := spaceCode c.toNat

/-- `c` is in upper case, and neither white space nor `|`. -/
structure Settled (c : Char) : Prop where
  upper : upperChar c = [c]
  not_space : isSpace c = false
  not_bar : c ≠ '|'

theorem toNat_ofNat {n : Nat} (h : n.isValidChar) : (Char.ofNat n).toNat = n := by
  rw [Char.ofNat, dif_pos h]
  rfl

theorem settled_ofNat {n : Nat} (h : settledCode n = true) : Settled (Char.ofNat n) := by
  simp only [settledCode, Bool.and_eq_true, decide_eq_true_eq, beq_iff_eq, Bool.not_eq_true', bne_iff_ne] at h
  obtain ⟨⟨⟨hvalid, hupper⟩, hspace⟩, hbar⟩ := h
  have hcode := toNat_ofNat hvalid
  constructor
  · rw [upperChar, hcode, hupper]
    rfl
  · rw [isSpace, hcode]
    exact hspace
  · intro heq
    rw [heq] at hcode
    exact hbar hcode.symm

/-- A character is its own upper case, or its upper case is settled. -/
theorem upperChar_cases (c : Char) :
    upperChar c = [c] ∨ upperChar c ≠ [] ∧ ∀ d ∈ upperChar c, Settled d := by
  rcases upperCode_cases c.toNat with hself | ⟨hne, hall⟩
  · left
    rw [upperChar, hself]
    simp
  · right
    refine ⟨by simpa [upperChar] using hne, fun d hd => ?_⟩
    obtain ⟨n, hn, rfl⟩ := List.mem_map.1 hd
    exact settled_ofNat (hall n hn)

end Py
