import HttpState.Proofs.List
import HttpState.Proofs.Text.LetterCase
import HttpState.Url.Host
import Mathlib.Algebra.Group.Nat.Defs
import Mathlib.Data.List.Induction

/-!
# Written IP addresses

An address is read from what it is written as: an IPv4 address from its four decimal numbers, an
IPv6 address from its pieces in hexadecimal, of which the longest run of zeros may be left out.
Whatever else an address is read from, it has 32 bits or eight pieces of 16 bits, and that is what
the written form needs.

## Key definitions

- `Ipv6.IsAddress`: eight pieces of 16 bits

## Key results

- `Ipv4.ofHost?_render`, `Ipv4.lt_of_ofHost?`: IPv4 addresses
- `Ipv6.ofHost?_render`, `Ipv6.isAddress_of_ofHost?`: IPv6 addresses
-/

namespace HttpState.Url

open HttpState.Text

/-! ## Numbers -/

/-- A number is what its digits denote. -/
theorem number_toDigits {b : Nat} {value? : Char → Option Nat} (hb : 1 < b)
    (hvalue : ∀ d < b, value? d.digitChar = some d) (n : Nat) :
    number b value? (Nat.toDigits b n) = n := by
  induction n using Nat.strongRecOn with
  | ind n ih =>
    rw [Nat.toDigits_eq_if hb]
    split
    · -- One digit.
      rename_i hn
      simp [number, hvalue n hn]
    · -- The last digit counts one, and those before it are read by induction.
      rename_i hn
      have hmod : n % b < b := Nat.mod_lt n (by omega)
      have hdiv : n / b < n := Nat.div_lt_self (by omega) hb
      have hih := ih (n / b) hdiv
      rw [number] at hih
      rw [number, List.foldl_append, hih, List.foldl_cons, List.foldl_nil, hvalue _ hmod,
        Option.getD_some, Nat.mul_comm]
      exact Nat.div_add_mod n b

/-- Digits denote a number below a power of the base. -/
theorem foldl_digits_lt {α : Type} {b : Nat} {value : α → Nat} {s : List α}
    (h : ∀ c ∈ s, value c < b) : s.foldl (fun n c => n * b + value c) 0 < b ^ s.length := by
  induction s using List.reverseRecOn with
  | nil => exact Nat.one_pos
  | append_singleton s c ih =>
    rw [List.forall_mem_append, List.forall_mem_singleton] at h
    rw [List.foldl_append, List.foldl_cons, List.foldl_nil, List.length_append,
      List.length_singleton, Nat.pow_succ]
    have hmul := Nat.mul_le_mul_right b (Nat.succ_le_of_lt (ih h.1))
    rw [Nat.succ_mul] at hmul
    omega

/-- A hexadecimal digit is below 16. -/
theorem hexDigit?_lt {c : Char} {d : Nat} (h : hexDigit? c = some d) : d < 16 := by
  have hle : ∀ a b : Char, a ≤ b ↔ a.toNat ≤ b.toNat := fun _ _ => Iff.rfl
  simp only [hexDigit?, hle, Char.reduceToNat] at h
  split_ifs at h
  all_goals
    have := Option.some.inj h
    omega

/-- What a text of `n` characters denotes in hexadecimal is below `16 ^ n`. -/
theorem hexadecimal_lt (s : List Char) : hexadecimal s < 16 ^ s.length := by
  refine foldl_digits_lt fun c _ => ?_
  cases hc : hexDigit? c with
  | none => decide
  | some d => exact hexDigit?_lt hc

/-- A number written in hexadecimal is read back. -/
theorem hexadecimal_toDigits (n : Nat) : hexadecimal (Nat.toDigits 16 n) = n := by
  have hall : ∀ d : Fin 16, hexDigit? d.val.digitChar = some d.val := by decide
  exact number_toDigits (by omega) (fun d hd => hall ⟨d, hd⟩) n

/-- A number is written in hexadecimal digits. -/
theorem isSome_hexDigit?_of_mem_toDigits {n : Nat} {c : Char} (hc : c ∈ Nat.toDigits 16 n) :
    (hexDigit? c).isSome = true := by
  have hall : ∀ d : Fin 16, (hexDigit? d.val.digitChar).isSome = true := by decide
  induction n using Nat.strongRecOn with
  | ind n ih =>
    rw [Nat.toDigits_eq_if (by omega)] at hc
    split at hc
    · rename_i hn
      rw [List.mem_singleton.1 hc]
      exact hall ⟨n, hn⟩
    · cases List.mem_append.1 hc with
      | inl hfront => exact ih (n / 16) (by omega) hfront
      | inr hlast =>
        rw [List.mem_singleton.1 hlast]
        exact hall ⟨n % 16, by omega⟩

/-! ## IPv4 -/

namespace Ipv4

/-- The numbers of the four bytes of an address. -/
def bytes (n : Nat) : List Nat := [n / 0x1000000, n / 0x10000 % 256, n / 0x100 % 256, n % 256]

/-- A number of a byte has no leading zeros, so it is read as a decimal number. -/
theorem part?_toDigits {m : Nat} (h : m < 256) : part? (Nat.toDigits 10 m) = some m := by
  have hall : ∀ b : Fin 256, part? (Nat.toDigits 10 b.val) = some b.val := by decide +kernel
  exact hall ⟨m, h⟩

/-- The parts of an IPv4 address are its four numbers. -/
theorem parts_render (n : Nat) : parts (render n) = (bytes n).map (Nat.toDigits 10) := by
  have hsplit : (render n).splitOn '.' = (bytes n).map (Nat.toDigits 10) := by
    refine List.splitOn_intercalate '.' ?_ (by simp)
    intro s hs hdot
    obtain ⟨m, -, rfl⟩ := List.mem_map.1 hs
    exact absurd (Nat.isDigit_of_mem_toDigits (by omega) (by omega) hdot) (by decide)
  simp only [parts]
  rw [hsplit, if_neg]
  simp [bytes, Nat.toDigits_ne_nil]

/-- What is written as an address is meant as one. -/
theorem isMeant_render (n : Nat) : isMeant (render n) = true := by
  have hdigits : (Nat.toDigits 10 (n % 256)).all Char.isDigit = true :=
    List.all_eq_true.2 fun c hc => Nat.isDigit_of_mem_toDigits (by omega) (by omega) hc
  have hne : (Nat.toDigits 10 (n % 256)).isEmpty = false := by simp [Nat.toDigits_ne_nil]
  rw [isMeant, parts_render]
  simp [bytes, hdigits, hne]

/-- An address is read from what it is written as. -/
theorem ofHost?_render {n : Nat} (h : n < 0x100000000) : ofHost? (render n) = some n := by
  have hparts : ((bytes n).map (Nat.toDigits 10)).mapM part? = some (bytes n) := by
    rw [List.mapM_map, List.mapM_eq_some_map (g := id) fun m hm => ?_, List.map_id]
    simp only [bytes, List.mem_cons, List.not_mem_nil, or_false] at hm
    exact part?_toDigits (by omega)
  rw [ofHost?, parts_render, hparts, Option.bind_some, bytes, ofNumbers?]
  have hbytes : (n / 0x100 % 256 ≤ 255 ∧ n / 0x10000 % 256 ≤ 255 ∧ n / 0x1000000 ≤ 255) ∧
      n % 256 < 256 := by omega
  have hsum : ((n / 0x1000000 * 256 + n / 0x10000 % 256) * 256 + n / 0x100 % 256) * 256 + n % 256 =
      n := by omega
  simpa using And.intro hbytes hsum

/-- Whatever an address is read from, it has 32 bits. -/
theorem lt_of_ofHost? {s : List Char} {n : Address} (h : ofHost? s = some n) :
    n < 0x100000000 := by
  obtain ⟨ns, -, h⟩ := Option.bind_eq_some_iff.1 h
  unfold ofNumbers? at h
  split at h
  · cases h
  · rename_i last front hreverse
    dsimp only at h
    split at h
    · rename_i hfits
      obtain ⟨hlength, hfront, hlast⟩ := hfits
      obtain rfl := Option.some.inj h
      have hbytes : ∀ b ∈ front.reverse, b < 256 := by
        intro b hb
        have := of_decide_eq_true (List.all_eq_true.1 hfront b (List.mem_reverse.1 hb))
        omega
      have hlt := foldl_digits_lt hbytes
      rw [List.length_reverse] at hlt
      generalize front.reverse.foldl (fun n b => n * 256 + b) 0 = m at hlt ⊢
      -- The last number fills the bytes that the others leave.
      have hpow : 256 ^ front.length * 256 ^ (4 - front.length) = 0x100000000 := by
        rw [← Nat.pow_add, Nat.add_sub_cancel' (by omega)]
      have hmul := Nat.mul_le_mul_right (256 ^ (4 - front.length)) (Nat.succ_le_of_lt hlt)
      rw [hpow, Nat.succ_mul] at hmul
      exact Nat.lt_of_lt_of_le (Nat.add_lt_add_left hlast _) hmul
    · cases h

end Ipv4

/-! ## IPv6 -/

namespace Ipv6

/-- The pieces of an address. -/
structure IsAddress (ps : List Nat) : Prop where
  length : ps.length = 8
  lt : ∀ p ∈ ps, p < 0x10000

/-- What may stand behind a piece: nothing, or a colon and more. -/
def EndsPiece (s : List Char) : Prop := s = [] ∨ ∃ c t, s = ':' :: c :: t

/-- A piece is read back up to what ends it. -/
theorem spanPiece_toDigits {p : Nat} (hp : p < 0x10000) {s : List Char} (hs : EndsPiece s) :
    spanPiece (Nat.toDigits 16 p ++ s) = (Nat.toDigits 16 p, s) := by
  have hlength : (Nat.toDigits 16 p).length ≤ 4 :=
    (Nat.length_toDigits_le_iff (by omega) (by omega)).2 hp
  -- The digits end where `s` begins, as it is empty or begins with a colon.
  have htake : (Nat.toDigits 16 p ++ s).takeWhile (fun c => (hexDigit? c).isSome) =
      Nat.toDigits 16 p := by
    refine (List.span_append (fun c hc => isSome_hexDigit?_of_mem_toDigits hc) ?_).1
    rcases hs with rfl | ⟨c, t, rfl⟩
    · exact nofun
    · rintro d hd
      cases hd
      decide
  rw [spanPiece]
  simp only [htake, List.take_of_length_le hlength, List.drop_left]

/-- A piece does not begin with a colon. -/
theorem toDigits_append_ne (p : Nat) (s t : List Char) : Nat.toDigits 16 p ++ s ≠ ':' :: t := by
  intro h
  obtain ⟨d, ds, hdigits⟩ := List.exists_cons_of_ne_nil (Nat.toDigits_ne_nil (n := p) (b := 16))
  have hd : (hexDigit? d).isSome = true :=
    isSome_hexDigit?_of_mem_toDigits (n := p) (by simp [hdigits])
  rw [hdigits, List.cons_append] at h
  rw [(List.cons.inj h).1] at hd
  exact absurd hd (by decide)

/-- A piece is read. -/
theorem piecesFrom_toDigits {p : Nat} (hp : p < 0x10000) (acc : List Nat) (gap : Option Nat)
    (room : Nat) {s : List Char} (hs : EndsPiece s) :
    piecesFrom acc gap (room + 1) (Nat.toDigits 16 p ++ s) =
      piecesFrom (acc ++ [p]) gap room (s.drop 1) := by
  rw [piecesFrom.eq_4 _ _ _ _ (by simp [Nat.toDigits_ne_nil]) (toDigits_append_ne p s),
    spanPiece_toDigits hp hs]
  simp only [hexadecimal_toDigits]
  rcases hs with rfl | ⟨c, t, rfl⟩
  · cases room <;> rfl
  · rfl

/-- The text of some pieces begins with that of the first. -/
theorem renderPieces_cons (p : Nat) (qs : List Nat) :
    ∃ s, renderPieces (p :: qs) = Nat.toDigits 16 p ++ s := by
  by_cases hqs : qs = []
  · exact ⟨[], by simp [renderPieces, hqs]⟩
  · rw [renderPieces, List.map_cons, List.intercalate_cons_of_ne_nil (by simpa using hqs),
      List.append_assoc]
    exact ⟨_, rfl⟩

/-- The text of some pieces does not begin with a colon. -/
theorem renderPieces_append_ne {ps : List Nat} (hne : ps ≠ []) (s t : List Char) :
    renderPieces ps ++ s ≠ ':' :: t := by
  obtain ⟨p, qs, rfl⟩ := List.exists_cons_of_ne_nil hne
  obtain ⟨u, hu⟩ := renderPieces_cons p qs
  rw [hu, List.append_assoc]
  exact toDigits_append_ne p _ t

/-- Some text is written for some pieces. -/
theorem renderPieces_ne_nil {ps : List Nat} (hne : ps ≠ []) : renderPieces ps ≠ [] := by
  obtain ⟨p, qs, rfl⟩ := List.exists_cons_of_ne_nil hne
  obtain ⟨u, hu⟩ := renderPieces_cons p qs
  simp [hu, Nat.toDigits_ne_nil]

/-- Pieces are read one after another. -/
theorem piecesFrom_renderPieces {ps : List Nat} (hne : ps ≠ []) (hps : ∀ p ∈ ps, p < 0x10000)
    (acc : List Nat) (gap : Option Nat) (room : Nat) {s : List Char} (hs : EndsPiece s) :
    piecesFrom acc gap (ps.length + room) (renderPieces ps ++ s) =
      piecesFrom (acc ++ ps) gap room (s.drop 1) := by
  induction ps generalizing acc with
  | nil => exact absurd rfl hne
  | cons p qs ih =>
    rw [List.forall_mem_cons] at hps
    rw [List.length_cons, Nat.add_right_comm]
    by_cases hqs : qs = []
    · -- The last piece, behind which `s` follows.
      subst hqs
      rw [renderPieces, List.map_singleton, List.intercalate_singleton,
        piecesFrom_toDigits hps.1 _ _ _ hs, List.length_nil, Nat.zero_add]
    · -- A colon and the next piece follow.
      obtain ⟨c, t, hcons⟩ := List.exists_cons_of_ne_nil (renderPieces_ne_nil hqs)
      have htext : renderPieces (p :: qs) ++ s =
          Nat.toDigits 16 p ++ (':' :: c :: (t ++ s)) := by
        rw [renderPieces, List.map_cons, List.intercalate_cons_of_ne_nil (by simpa using hqs)]
        rw [renderPieces] at hcons
        simp [hcons]
      have hrest : (':' :: c :: (t ++ s)).drop 1 = renderPieces qs ++ s := by simp [hcons]
      rw [htext, piecesFrom_toDigits hps.1 _ _ _ (.inr ⟨c, t ++ s, rfl⟩), hrest, ih hqs hps.2,
        List.append_assoc, List.singleton_append]

/-- The pieces at the end of an address are read. -/
theorem piecesFrom_last {ps : List Nat} (hps : ∀ p ∈ ps, p < 0x10000) (acc : List Nat)
    (gap : Option Nat) {room : Nat} (hroom : ps.length ≤ room) :
    piecesFrom acc gap room (renderPieces ps) = some (acc ++ ps, gap) := by
  by_cases hne : ps = []
  · subst hne
    rw [List.append_nil, renderPieces, List.map_nil, List.intercalate_nil, piecesFrom]
  · have hread := piecesFrom_renderPieces hne hps acc gap (room - ps.length) (s := []) (.inl rfl)
    rw [List.append_nil, Nat.add_sub_cancel' hroom] at hread
    rw [hread, List.drop_nil, piecesFrom]

/-- The longest run of zeros stands between the pieces before it and those behind it. -/
theorem longestZeroRun_spec (ps : List Nat) :
    ps = ps.take (longestZeroRun ps).1 ++ List.replicate (longestZeroRun ps).2 0 ++
      ps.drop ((longestZeroRun ps).1 + (longestZeroRun ps).2) := by
  induction ps with
  | nil => rfl
  | cons p ps ih =>
    rw [longestZeroRun]
    split
    rename_i start length hrun
    rw [hrun] at ih
    dsimp only
    split
    · -- A run starts here that is longer than those found behind it.
      have hzeros : (p :: ps).take (zeroRun (p :: ps)) = List.replicate (zeroRun (p :: ps)) 0 := by
        rw [zeroRun, ← List.prefix_iff_eq_take.1 (List.takeWhile_prefix (· == 0)),
          List.eq_replicate_iff]
        refine ⟨rfl, fun q hq => ?_⟩
        simpa using List.all_eq_true.1 List.all_takeWhile q hq
      rw [List.take_zero, List.nil_append, Nat.zero_add, ← hzeros, List.take_append_drop]
    · -- The longest run lies behind this piece.
      rw [List.take_succ_cons, Nat.add_right_comm, List.drop_succ_cons, List.cons_append,
        List.cons_append, ← ih]

/-- An address is read from its pieces before a gap and those behind it. -/
theorem ofHost?_gap {front back : List Nat} {length : Nat} (hlength : 2 ≤ length)
    (h : IsAddress (front ++ List.replicate length 0 ++ back)) :
    ofHost? (renderPieces front ++ ':' :: ':' :: renderPieces back) =
      some (front ++ List.replicate length 0 ++ back) := by
  have hsum := h.length
  simp only [List.length_append, List.length_replicate] at hsum
  have hlt := h.lt
  rw [List.forall_mem_append, List.forall_mem_append] at hlt
  obtain ⟨⟨hfront, -⟩, hback⟩ := hlt
  -- The gap is read as one zero, and the others are put in behind it.
  have hzeros : 0 :: List.replicate (8 - (front.length + 1 + back.length)) 0 =
      List.replicate length 0 := by
    rw [← List.replicate_succ]
    congr 1
    omega
  by_cases hne : front = []
  · -- The gap stands in front.
    subst hne
    have hread : piecesFrom [0] (some 1) 7 (renderPieces back) = some ([0] ++ back, some 1) :=
      piecesFrom_last hback _ _ (by simp at hsum; omega)
    rw [show renderPieces [] = [] from rfl, List.nil_append, ofHost?.eq_1,
      show 8 - [0].length = 7 from rfl, hread]
    simp only [List.length_nil] at hzeros
    rw [List.nil_append, ← hzeros]
    simp [Nat.add_comm]
  · -- Pieces stand in front of the gap.
    have hread : piecesFrom [] none 8 (renderPieces front ++ ':' :: ':' :: renderPieces back) =
        some (front ++ [0] ++ back, some (front.length + 1)) := by
      have hroom : 8 = front.length + (6 - front.length + 1 + 1) := by omega
      rw [hroom, piecesFrom_renderPieces hne hfront _ _ _ (.inr ⟨_, _, rfl⟩), List.nil_append,
        List.drop_succ_cons, List.drop_zero, piecesFrom]
      exact piecesFrom_last hback _ _ (by omega)
    rw [ofHost?.eq_3 _ (fun _ => renderPieces_append_ne hne _ _) fun _ =>
      renderPieces_append_ne hne _ _, List.length_nil, Nat.sub_zero, hread]
    have htake : (front ++ [0] ++ back).take (front.length + 1) = front ++ [0] :=
      List.take_left' (by simp)
    have hdrop : (front ++ [0] ++ back).drop (front.length + 1) = back :=
      List.drop_left' (by simp)
    simp only [htake, hdrop, List.length_append, List.length_singleton]
    rw [← hzeros]
    simp

/-- An address is read from what it is written as. -/
theorem ofHost?_render {ps : List Nat} (h : IsAddress ps) : ofHost? (render ps) = some ps := by
  have hspec := longestZeroRun_spec ps
  rw [render]
  split
  rename_i start length hrun
  rw [hrun] at hspec
  split
  · -- Two or more zeros are written as a gap.
    rename_i hlength
    dsimp only at hspec
    rw [hspec] at h
    rw [ofHost?_gap hlength h, ← hspec]
  · -- No gap is written, so there are eight pieces to read.
    have hne : ps ≠ [] := by
      rintro rfl
      exact absurd h.length (by decide)
    have hread := piecesFrom_last h.lt [] none (Nat.le_of_eq h.length)
    have hhead : ∀ t, renderPieces ps ≠ ':' :: t := by
      simpa using renderPieces_append_ne hne []
    rw [ofHost?.eq_3 _ (fun _ => hhead _) hhead, List.length_nil, Nat.sub_zero, hread]
    simp only [List.nil_append, h.length, if_true]

/-! ### Other texts -/

/-- An IPv4 address in decimal is a number below `2 ^ 32`. -/
theorem lt_of_dotted? {s : List Char} {n : Nat} (h : Ipv4.dotted? s = some n) :
    n < 0x100000000 := by
  unfold Ipv4.dotted? at h
  split at h
  · rename_i a b c d hoctets
    -- Each of the four numbers has been checked.
    have hall : ∀ m ∈ [a, b, c, d], m ≤ 255 := by
      refine List.forall_mem_of_mapM_eq_some ?_ hoctets
      intro t m hm
      unfold Ipv4.octet? at hm
      split at hm
      · rename_i hoctet
        exact Option.some.inj hm ▸ hoctet.2.2.2
      · cases hm
    simp only [List.forall_mem_cons] at hall
    obtain rfl : n = ((a * 256 + b) * 256 + c) * 256 + d := (Option.some.inj h).symm
    omega
  · cases h

/-- A piece has four digits, so it is below `2 ^ 16`. -/
theorem hexadecimal_lt_of_spanPiece {s ds r : List Char} (h : spanPiece s = (ds, r)) :
    hexadecimal ds < 0x10000 := by
  obtain ⟨rfl, -⟩ := Prod.mk.inj h
  refine Nat.lt_of_lt_of_le (hexadecimal_lt _) ?_
  exact Nat.pow_le_pow_right (by omega) (List.length_take_le 4 _)

/-- The pieces that are read have 16 bits, and there is room for them. -/
theorem piecesFrom_spec {acc ps : List Nat} {gap gap' : Option Nat} {room : Nat} {s : List Char}
    (h : piecesFrom acc gap room s = some (ps, gap')) (hacc : ∀ p ∈ acc, p < 0x10000) :
    ps.length ≤ acc.length + room ∧ ∀ p ∈ ps, p < 0x10000 := by
  have hsnoc : ∀ {acc : List Nat} {p : Nat}, (∀ q ∈ acc, q < 0x10000) → p < 0x10000 →
      ∀ q ∈ acc ++ [p], q < 0x10000 := fun hacc hp =>
    List.forall_mem_append.2 ⟨hacc, List.forall_mem_singleton.2 hp⟩
  fun_induction piecesFrom acc gap room s with
  | case1 =>
    cases h
    exact ⟨Nat.le_add_right _ _, hacc⟩
  | case4 acc gap room s hgap ih =>
    -- A gap is read as a zero.
    have := ih h (hsnoc hacc (by decide))
    simp only [List.length_append, List.length_singleton] at this
    exact ⟨by omega, this.2⟩
  | case6 acc gap room s hs hcolon ds t hroom hspan =>
    -- The last two pieces are an IPv4 address.
    obtain ⟨n, hn, hps⟩ := Option.map_eq_some_iff.1 h
    have hlt := lt_of_dotted? hn
    cases hps
    rw [not_or] at hroom
    refine ⟨by simp only [List.length_append, List.length_cons, List.length_nil]; omega, ?_⟩
    rw [List.forall_mem_append, List.forall_mem_cons, List.forall_mem_singleton]
    exact ⟨hacc, by omega, by omega⟩
  | case8 acc gap room s hs hcolon ds r hr hspan ih =>
    have := ih h (hsnoc hacc (hexadecimal_lt_of_spanPiece hspan))
    simp only [List.length_append, List.length_singleton] at this
    exact ⟨by omega, this.2⟩
  | case9 acc gap room s hs hcolon ds hspan =>
    cases h
    exact ⟨by simp only [List.length_append, List.length_singleton]; omega,
      hsnoc hacc (hexadecimal_lt_of_spanPiece hspan)⟩
  | case2 => cases h
  | case3 => cases h
  | case5 => cases h
  | case7 => cases h
  | case10 => cases h

/-- Whatever an address is read from, it has eight pieces of 16 bits. -/
theorem isAddress_of_ofHost? {s : List Char} {ps : List Nat} (h : ofHost? s = some ps) :
    IsAddress ps := by
  simp only [ofHost?] at h
  split at h
  · cases h
  · rename_i acc gap r hstart
    have hacc : acc.length ≤ 8 ∧ ∀ p ∈ acc, p < 0x10000 := by
      split at hstart
      · cases hstart
        simp
      · cases hstart
      · cases hstart
        simp
    split at h
    · -- With a gap, which fills up what is missing.
      rename_i qs at' hpieces
      obtain ⟨hle, hlt⟩ := piecesFrom_spec hpieces hacc.2
      cases h
      refine ⟨?_, ?_⟩
      · simp only [List.length_append, List.length_take, List.length_replicate, List.length_drop]
        omega
      · rw [List.forall_mem_append, List.forall_mem_append]
        refine ⟨⟨fun p hp => hlt p (List.mem_of_mem_take hp), fun p hp => ?_⟩,
          fun p hp => hlt p (List.mem_of_mem_drop hp)⟩
        rw [(List.mem_replicate.1 hp).2]
        decide
    · -- Without a gap all eight pieces have to be there.
      rename_i qs hpieces
      split at h
      · rename_i hlength
        cases h
        exact ⟨hlength, (piecesFrom_spec hpieces hacc.2).2⟩
      · cases h
    · cases h

end Ipv6

end HttpState.Url
