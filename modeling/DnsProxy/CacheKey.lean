import DnsProxy.Wire
import Mathlib.Tactic.IntervalCases
import Mathlib.Tactic.Ring
import Mathlib.Data.Nat.Digits

/-! # The cache key of a request

`get_cache_key` prints the question's type and class and the DO and CD bits, then walks the owner's
wire octets the way `ldns_rdf2buffer_str_dname` does, lowercasing each; `src_pos` is an `uint8_t`,
and a read past the rdf is `none`.
-/

namespace DnsProxy

set_option autoImplicit false

/-- `std::tolower` of an octet in the C locale. -/
def toLower (c : UInt8) : UInt8 := if 0x41 ≤ c ∧ c ≤ 0x5A then c + 0x20 else c

/-- The character `key.push_back` appends for an octet. -/
def lowerChar (c : UInt8) : Char := Char.ofNat (toLower c).toNat

/-- The inner loop of `get_cache_key`: `len` octets from `data[pos]` on, lowercased. -/
def copyLower (data : List UInt8) : Nat → Nat → Option (List Char)
  | _, 0 => some []
  | pos, len + 1 => do
    let c ← data[pos]?
    let rest ← copyLower data ((pos + 1) % 256) len
    pure (lowerChar c :: rest)

/-- The outer loop of `get_cache_key`: `len` is the length octet last read and `pos` is
`src_pos`. It runs at most `fuel` rounds. -/
def labelWalk (data : List UInt8) (size : Nat) : Nat → Nat → Nat → Option (List Char)
  | 0, _, _ => none
  | fuel + 1, len, pos =>
    if 0 < len ∧ pos < size then do
      let label ← copyLower data ((pos + 1) % 256) len
      let pos' := (pos + 1 + len) % 256
      let next ← data[pos']?
      let rest ← labelWalk data size fuel next.toNat pos'
      pure (label ++ (if pos' < size then ['.'] else []) ++ rest)
    else some []

/-- The owner part of the key: `.` for the root, else the label walk from `data[0]`. -/
def ownerKey (owner : DName) : List Char :=
  let data := owner.wire
  if data.length = 1 then ['.']
  else (labelWalk data data.length data.length (data.headD 0).toNat 0).getD []

/-- The key's prefix `"{}|{}|{}{}|"`: type and class in decimal as fmt prints them, then
the DO and CD bits. -/
def keyPrefix (type cls : Nat) (ednsDo cd : Bool) : List Char :=
  Nat.toDigits 10 type ++ '|' :: Nat.toDigits 10 cls ++
    ['|', if ednsDo then '1' else '0', if cd then '1' else '0', '|']

/-- `get_cache_key`, on a request with a question (the only requests it is given). -/
def getCacheKey (request : Pkt) : String :=
  match request.question with
  | [] => ""
  | question :: _ =>
    ⟨keyPrefix question.type question.cls request.ednsDo request.cd ++ ownerKey question.owner⟩

/-! ## The label walk spells the labels -/

def encodeLabels (ls : List (List UInt8)) : List UInt8 :=
  ls.flatMap (fun l => l.length.toUInt8 :: l)

/-- What the walk appends for a list of labels: each lowercased and followed by `.`. -/
def labelsKey (ls : List (List UInt8)) : List Char :=
  ls.flatMap (fun l => l.map lowerChar ++ ['.'])

theorem encodeLabels_length (ls : List (List UInt8)) :
    (encodeLabels ls).length = (ls.map (·.length + 1)).sum := by
  induction ls with
  | nil => rfl
  | cons l ls ih => simp [encodeLabels, List.flatMap_cons] at ih ⊢; omega

theorem DName.wire_eq (n : DName) : n.wire = encodeLabels n.labels ++ [0] := rfl

theorem DName.wire_length (n : DName) : n.wire.length = (n.labels.map (·.length + 1)).sum + 1 := by
  simp [DName.wire_eq, encodeLabels_length]

theorem getElem?_of_drop_eq {data rest : List UInt8} {pos : Nat} {c : UInt8}
    (h : data.drop pos = c :: rest) : data[pos]? = some c := by
  have h0 := List.getElem?_drop data pos 0
  rw [h] at h0
  simpa using h0.symm

theorem lt_length_of_drop_eq {data rest : List UInt8} {pos : Nat} {c : UInt8}
    (h : data.drop pos = c :: rest) : pos < data.length := by
  have h0 := congrArg List.length h
  simp only [List.length_drop, List.length_cons] at h0
  omega

theorem drop_add_of_drop_eq {data l rest : List UInt8} {pos : Nat}
    (h : data.drop pos = l ++ rest) : data.drop (pos + l.length) = rest := by
  rw [← List.drop_drop, h, List.drop_left]

theorem copyLower_eq (l : List UInt8) :
    ∀ (data rest : List UInt8) (pos : Nat), data.drop pos = l ++ rest → pos + l.length ≤ 255 →
      copyLower data pos l.length = some (l.map lowerChar) := by
  induction l with
  | nil => intro _ _ _ _ _; rfl
  | cons c l ih =>
    intro data rest pos h hLen
    have hTail := ih data rest (pos + 1) (drop_add_of_drop_eq (l := [c]) h) (by simp at hLen; omega)
    rw [List.length_cons] at hLen
    simp [copyLower, getElem?_of_drop_eq h, Nat.mod_eq_of_lt (show pos + 1 < 256 by omega), hTail]

theorem toNat_length_toUInt8 (l : List UInt8) (h : l.length ≤ 63) :
    l.length.toUInt8.toNat = l.length :=
  UInt8.toNat_ofNat_of_lt (by unfold UInt8.size; omega)

theorem head_encodeLabels (ls : List (List UInt8)) (hValid : ∀ l ∈ ls, 0 < l.length ∧ l.length ≤ 63) :
    ∃ rest, encodeLabels ls ++ [0] = (ls.headD []).length.toUInt8 :: rest ∧
      ((ls.headD []).length.toUInt8).toNat = (ls.headD []).length := by
  cases ls with
  | nil => exact ⟨[], rfl, rfl⟩
  | cons l ls =>
    exact ⟨l ++ encodeLabels ls ++ [0], by simp [encodeLabels, List.flatMap_cons],
      toNat_length_toUInt8 l (hValid l (List.mem_cons_self l ls)).2⟩

theorem labelWalk_eq (ls : List (List UInt8)) (hValid : ∀ l ∈ ls, 0 < l.length ∧ l.length ≤ 63) :
    ∀ (data : List UInt8) (pos fuel : Nat), data.drop pos = encodeLabels ls ++ [0] →
      data.length ≤ 255 → ls.length < fuel →
      labelWalk data data.length fuel (ls.headD []).length pos = some (labelsKey ls) := by
  induction ls with
  | nil =>
    intro data pos fuel _ _ hFuel
    obtain ⟨fuel, rfl⟩ := Nat.exists_eq_add_of_lt hFuel
    simp [labelWalk, labelsKey]
  | cons l ls ih =>
    intro data pos fuel hDrop hSize hFuel
    obtain ⟨hPos, hLe⟩ := hValid l (List.mem_cons_self l ls)
    have hValid' : ∀ l' ∈ ls, 0 < l'.length ∧ l'.length ≤ 63 :=
      fun l' h' => hValid l' (List.mem_cons_of_mem l h')
    obtain ⟨fuel, rfl⟩ : ∃ f, fuel = f + 1 := ⟨fuel - 1, by simp at hFuel; omega⟩
    have hEnc : encodeLabels (l :: ls) ++ [0] = l.length.toUInt8 :: (l ++ (encodeLabels ls ++ [0])) := by
      simp [encodeLabels, List.flatMap_cons]
    rw [hEnc] at hDrop
    have hLabel : data.drop (pos + 1) = l ++ (encodeLabels ls ++ [0]) :=
      drop_add_of_drop_eq (l := [l.length.toUInt8]) hDrop
    have hNext : data.drop (pos + 1 + l.length) = encodeLabels ls ++ [0] :=
      drop_add_of_drop_eq hLabel
    have hIh := ih hValid' data (pos + 1 + l.length) fuel hNext hSize (by simp at hFuel; omega)
    obtain ⟨tail, hTail, hByte⟩ := head_encodeLabels ls hValid'
    have hNextLt := lt_length_of_drop_eq (hNext.trans hTail)
    have hRead := getElem?_of_drop_eq (hNext.trans hTail)
    have hCopy := copyLower_eq l data _ (pos + 1) hLabel (by omega)
    generalize ls.headD [] = first at hIh hByte hRead
    simp only [labelWalk, List.headD_cons, hPos, lt_length_of_drop_eq hDrop, and_self, if_true,
      Nat.mod_eq_of_lt (show pos + 1 < 256 by omega), hCopy,
      Nat.mod_eq_of_lt (show pos + 1 + l.length < 256 by omega), hRead, hNextLt]
    simp [hByte, hIh, labelsKey, List.flatMap_cons]

theorem length_le_sum (ls : List (List UInt8)) : ls.length ≤ (ls.map (·.length + 1)).sum := by
  induction ls with
  | nil => simp
  | cons x xs ih => simp only [List.length_cons, List.map_cons, List.sum_cons]; omega

theorem DName.wire_length_eq_one_iff (n : DName) : n.wire.length = 1 ↔ n.labels = [] := by
  rw [n.wire_length]
  cases n.labels with
  | nil => simp
  | cons l ls => simp only [List.map_cons, List.sum_cons, reduceCtorEq, iff_false]; omega

theorem labelWalk_wire (n : DName) :
    labelWalk n.wire n.wire.length n.wire.length (n.wire.headD 0).toNat 0 = some (labelsKey n.labels) := by
  obtain ⟨tail, hTail, hByte⟩ := head_encodeLabels n.labels n.label_size
  have hHead : (n.wire.headD 0).toNat = (n.labels.headD []).length := by
    rw [DName.wire_eq, hTail]; exact hByte
  have hRounds := length_le_sum n.labels
  rw [hHead]
  exact labelWalk_eq n.labels n.label_size n.wire 0 n.wire.length (by simp [DName.wire_eq])
    (n.wire_length ▸ n.wire_size) (by rw [n.wire_length]; omega)

theorem ownerKey_eq (n : DName) :
    ownerKey n = if n.labels = [] then ['.'] else labelsKey n.labels := by
  by_cases hRoot : n.labels = []
  · simp [ownerKey, (DName.wire_length_eq_one_iff n).mpr hRoot, hRoot]
  · simp only [ownerKey, if_neg (mt (DName.wire_length_eq_one_iff n).mp hRoot), if_neg hRoot,
      labelWalk_wire, Option.getD_some]

/-- On every owner name ldns produces, the label walk of `get_cache_key` reads only inside the rdf
and spells the labels, each lowercased and followed by `.`; only the root has a one-octet rdf, and
its owner part is `.`. -/
theorem getCacheKey_labelWalk (n : DName) :
    (n.wire.length = 1 ↔ n.labels = []) ∧
      labelWalk n.wire n.wire.length n.wire.length (n.wire.headD 0).toNat 0 = some (labelsKey n.labels) ∧
      ownerKey n = if n.labels = [] then ['.'] else labelsKey n.labels :=
  ⟨DName.wire_length_eq_one_iff n, labelWalk_wire n, ownerKey_eq n⟩

/-- The key `get_cache_key` returns: the prefix, then `.` for the root and otherwise the owner's
labels, each lowercased and followed by `.`. -/
theorem getCacheKey_eq_labelsKey (request : Pkt) (q : RR) (qs : List RR) (h : request.question = q :: qs) :
    getCacheKey request = ⟨keyPrefix q.type q.cls request.ednsDo request.cd ++
      if q.owner.labels = [] then ['.'] else labelsKey q.owner.labels⟩ := by
  simp only [getCacheKey, h, ownerKey_eq]

/-! ## What the key determines -/

def decimalValue : List Char → Nat
  | [] => 0
  | c :: cs => (c.toNat - 48) * 10 ^ cs.length + decimalValue cs

theorem digitChar_value (k : Nat) (h : k < 10) : (Nat.digitChar k).toNat - 48 = k := by
  interval_cases k <;> rfl

theorem toDigitsCore_value (f : Nat) :
    ∀ n ds, n < f → decimalValue (Nat.toDigitsCore 10 f n ds) = n * 10 ^ ds.length + decimalValue ds := by
  induction f with
  | zero => intro n ds h; omega
  | succ f ih =>
    intro n ds h
    have hDigit := digitChar_value (n % 10) (Nat.mod_lt n (by norm_num))
    simp only [Nat.toDigitsCore]
    split
    · simp only [decimalValue, Nat.mod_eq_of_lt (show n < 10 by omega), digitChar_value n (by omega)]
    · rw [ih (n / 10) _ (by omega)]
      simp only [decimalValue, hDigit, List.length_cons, pow_succ]
      conv_rhs => rw [← Nat.div_add_mod n 10]
      ring

theorem toDigits_injective {a b : Nat} (h : Nat.toDigits 10 a = Nat.toDigits 10 b) : a = b := by
  have hValue (n : Nat) : decimalValue (Nat.toDigits 10 n) = n := by
    simpa [decimalValue] using toDigitsCore_value (n + 1) n [] (by omega)
  rw [← hValue a, h, hValue b]

theorem bar_not_mem_toDigitsCore (f : Nat) :
    ∀ n ds, '|' ∉ ds → '|' ∉ Nat.toDigitsCore 10 f n ds := by
  induction f with
  | zero => intro n ds h; exact h
  | succ f ih =>
    intro n ds h
    have hDigit : Nat.digitChar (n % 10) ≠ '|' := by
      have := Nat.mod_lt n (show 10 > 0 by norm_num)
      interval_cases (n % 10) <;> decide
    simp only [Nat.toDigitsCore]
    split
    · simp [h, Ne.symm hDigit]
    · exact ih _ _ (by simp [h, Ne.symm hDigit])

theorem bar_not_mem_toDigits (n : Nat) : '|' ∉ Nat.toDigits 10 n :=
  bar_not_mem_toDigitsCore _ n [] (List.not_mem_nil _)

theorem append_sep_inj {sep : Char} : ∀ {l₁ l₂ r₁ r₂ : List Char}, sep ∉ l₁ → sep ∉ l₂ →
    l₁ ++ sep :: r₁ = l₂ ++ sep :: r₂ → l₁ = l₂ ∧ r₁ = r₂
  | [], [], _, _, _, _, h => ⟨rfl, by simpa using h⟩
  | [], c :: l₂, _, _, _, h₂, h => by
    simp only [List.nil_append, List.cons_append, List.cons.injEq] at h
    exact absurd (h.1 ▸ List.mem_cons_self c l₂) h₂
  | c :: l₁, [], _, _, h₁, _, h => by
    simp only [List.nil_append, List.cons_append, List.cons.injEq] at h
    exact absurd (h.1 ▸ List.mem_cons_self c l₁) h₁
  | c :: l₁, d :: l₂, _, _, h₁, h₂, h => by
    simp only [List.cons_append, List.cons.injEq] at h
    obtain ⟨hl, hr⟩ := append_sep_inj (List.not_mem_of_not_mem_cons h₁)
      (List.not_mem_of_not_mem_cons h₂) h.2
    exact ⟨by rw [h.1, hl], hr⟩

theorem bitChar_inj {a b : Bool} (h : (if a then '1' else '0') = (if b then '1' else '0')) : a = b := by
  cases a <;> cases b <;> simp_all

theorem keyPrefix_inj {t c t' c' : Nat} {d cd d' cd' : Bool} {r r' : List Char}
    (h : keyPrefix t c d cd ++ r = keyPrefix t' c' d' cd' ++ r') :
    t = t' ∧ c = c' ∧ d = d' ∧ cd = cd' ∧ r = r' := by
  simp only [keyPrefix, List.append_assoc, List.cons_append, List.singleton_append] at h
  obtain ⟨ht, h⟩ := append_sep_inj (bar_not_mem_toDigits t) (bar_not_mem_toDigits t') h
  obtain ⟨hc, h⟩ := append_sep_inj (bar_not_mem_toDigits c) (bar_not_mem_toDigits c') h
  simp only [List.cons.injEq] at h
  exact ⟨toDigits_injective ht, toDigits_injective hc, bitChar_inj h.1, bitChar_inj h.2.1, h.2.2.2⟩

theorem getCacheKey_cons (request : Pkt) (q : RR) (qs : List RR) (h : request.question = q :: qs) :
    getCacheKey request = ⟨keyPrefix q.type q.cls request.ednsDo request.cd ++ ownerKey q.owner⟩ := by
  simp [getCacheKey, h]

theorem getCacheKey_inj {r r' : Pkt} {q q' : RR} {qs qs' : List RR} (h : r.question = q :: qs)
    (h' : r'.question = q' :: qs') (hKey : getCacheKey r = getCacheKey r') :
    q.type = q'.type ∧ q.cls = q'.cls ∧ r.ednsDo = r'.ednsDo ∧ r.cd = r'.cd ∧
      ownerKey q.owner = ownerKey q'.owner := by
  rw [getCacheKey_cons r q qs h, getCacheKey_cons r' q' qs' h'] at hKey
  exact keyPrefix_inj (congrArg String.data hKey)

def DName.EqUpToCase (a b : DName) : Prop :=
  a.labels.map (·.map toLower) = b.labels.map (·.map toLower)

instance (a b : DName) : Decidable (a.EqUpToCase b) := inferInstanceAs (Decidable (_ = _))

theorem labelsKey_eq_of_map_toLower {ls ls' : List (List UInt8)}
    (h : ls.map (·.map toLower) = ls'.map (·.map toLower)) : labelsKey ls = labelsKey ls' := by
  induction ls generalizing ls' with
  | nil => cases ls' <;> simp_all [labelsKey]
  | cons l ls ih =>
    cases ls' with
    | nil => simp at h
    | cons l' ls' =>
      simp only [List.map_cons, List.cons.injEq] at h
      have hl : l.map lowerChar = l'.map lowerChar := by
        have := congrArg (List.map (fun c => Char.ofNat c.toNat)) h.1
        simpa [List.map_map, Function.comp_def, lowerChar] using this
      simp [labelsKey, List.flatMap_cons, hl, ih h.2] at *
      exact ih h.2

theorem getCacheKey_eq_of_eqUpToCase {r r' : Pkt} {q q' : RR} {qs qs' : List RR}
    (h : r.question = q :: qs) (h' : r'.question = q' :: qs') (hType : q.type = q'.type)
    (hCls : q.cls = q'.cls) (hDo : r.ednsDo = r'.ednsDo) (hCd : r.cd = r'.cd)
    (hName : q.owner.EqUpToCase q'.owner) : getCacheKey r = getCacheKey r' := by
  have hRoot : q.owner.labels = [] ↔ q'.owner.labels = [] := by
    have hLen := congrArg List.length (show q.owner.labels.map (·.map toLower) =
      q'.owner.labels.map (·.map toLower) from hName)
    simp only [List.length_map] at hLen
    rw [← List.length_eq_zero, ← List.length_eq_zero, hLen]
  rw [getCacheKey_eq_labelsKey r q qs h, getCacheKey_eq_labelsKey r' q' qs' h',
    labelsKey_eq_of_map_toLower hName, hType, hCls, hDo, hCd]
  simp only [hRoot]

def twoLabelName : DName := ⟨[[0x61], [0x62]], by decide, by decide⟩

/-! ## Names with a `.` octet in a label -/

theorem lowerChar_toNat (c : UInt8) : (lowerChar c).toNat = (toLower c).toNat := by
  have h := (toLower c).toNat_lt_size
  unfold lowerChar Char.ofNat
  rw [dif_pos (Or.inl (by simp only [UInt8.size] at h; omega))]
  rfl

theorem toLower_eq_dot {c : UInt8} (h : toLower c = 0x2E) : c = 0x2E := by
  unfold toLower at h
  split_ifs at h with hUpper
  · have h1 := congrArg UInt8.toBitVec h
    simp only [UInt8.le_def, UInt8.add_def, UInt8.toBitVec_ofNat] at hUpper h1
    bv_omega
  · exact h

theorem map_toLower_of_map_lowerChar {l l' : List UInt8} (h : l.map lowerChar = l'.map lowerChar) :
    l.map toLower = l'.map toLower := by
  have h' := congrArg (List.map Char.toNat) h
  simp only [List.map_map, Function.comp_def, lowerChar_toNat] at h'
  apply List.map_injective_iff.mpr (fun _ _ => UInt8.toNat.inj)
  simpa only [List.map_map, Function.comp_def] using h'

theorem dot_not_mem_map_lowerChar {l : List UInt8} (h : 0x2E ∉ l) : '.' ∉ l.map lowerChar := by
  simp only [List.mem_map, not_exists, not_and]
  intro c hc hDot
  have hNat : (toLower c).toNat = (0x2E : UInt8).toNat := by rw [← lowerChar_toNat, hDot]; rfl
  exact h (toLower_eq_dot (UInt8.toNat.inj hNat) ▸ hc)

theorem labelsKey_inj {ls ls' : List (List UInt8)} (hDot : ∀ l ∈ ls, 0x2E ∉ l)
    (hDot' : ∀ l ∈ ls', 0x2E ∉ l) (h : labelsKey ls = labelsKey ls') :
    ls.map (·.map toLower) = ls'.map (·.map toLower) := by
  induction ls generalizing ls' with
  | nil => cases ls' with
    | nil => rfl
    | cons l' ls' => simp [labelsKey] at h
  | cons l ls ih => cases ls' with
    | nil => simp [labelsKey] at h
    | cons l' ls' =>
      simp only [labelsKey, List.flatMap_cons, List.append_assoc, List.singleton_append] at h
      obtain ⟨hl, hr⟩ := append_sep_inj (dot_not_mem_map_lowerChar (hDot l (List.mem_cons_self l ls)))
        (dot_not_mem_map_lowerChar (hDot' l' (List.mem_cons_self l' ls'))) h
      rw [List.map_cons, List.map_cons, map_toLower_of_map_lowerChar hl,
        ih (fun l hl => hDot l (List.mem_cons_of_mem _ hl))
          (fun l hl => hDot' l (List.mem_cons_of_mem _ hl)) hr]

theorem labelsKey_ne_root {n : DName} (h : n.labels ≠ []) : labelsKey n.labels ≠ ['.'] := by
  obtain ⟨l, ls, hls⟩ := List.exists_cons_of_ne_nil h
  have hl := (n.label_size l (hls ▸ List.mem_cons_self l ls)).1
  rw [hls]
  intro hRoot
  have hLen := congrArg List.length hRoot
  simp only [labelsKey, List.flatMap_cons, List.length_append, List.length_map,
    List.length_singleton] at hLen
  omega

theorem ownerKey_inj {a b : DName} (hDot : ∀ l ∈ a.labels, 0x2E ∉ l) (hDot' : ∀ l ∈ b.labels, 0x2E ∉ l)
    (h : ownerKey a = ownerKey b) : a.EqUpToCase b := by
  rw [ownerKey_eq, ownerKey_eq] at h
  unfold DName.EqUpToCase
  split_ifs at h with ha hb hb
  · rw [ha, hb]
  · exact absurd h.symm (labelsKey_ne_root hb)
  · exact absurd h (labelsKey_ne_root ha)
  · exact labelsKey_inj hDot hDot' h

/-- On owners whose labels hold no `.` octet, two requests share a key exactly when they ask the
same type and class with the same DO and CD bits for owners equal label by label up to case. -/
theorem getCacheKey_eq_iff {r r' : Pkt} {q q' : RR} {qs qs' : List RR} (h : r.question = q :: qs)
    (h' : r'.question = q' :: qs') (hDot : ∀ l ∈ q.owner.labels, 0x2E ∉ l)
    (hDot' : ∀ l ∈ q'.owner.labels, 0x2E ∉ l) :
    getCacheKey r = getCacheKey r' ↔ q.type = q'.type ∧ q.cls = q'.cls ∧ r.ednsDo = r'.ednsDo ∧
      r.cd = r'.cd ∧ q.owner.EqUpToCase q'.owner := by
  constructor
  · intro hKey
    obtain ⟨hType, hCls, hDo, hCd, hOwner⟩ := getCacheKey_inj h h' hKey
    exact ⟨hType, hCls, hDo, hCd, ownerKey_inj hDot hDot' hOwner⟩
  · rintro ⟨hType, hCls, hDo, hCd, hName⟩
    exact getCacheKey_eq_of_eqUpToCase h h' hType hCls hDo hCd hName

def upperTwoLabelName : DName := ⟨[[0x41], [0x42]], by decide, by decide⟩

theorem getCacheKey_eq_iff_upper_case :
    let q : RR := ⟨twoLabelName, ldnsDefaultTtl, RRType.a, classIn, []⟩
    let q' : RR := ⟨upperTwoLabelName, ldnsDefaultTtl, RRType.a, classIn, []⟩
    let r := ldnsPktQueryNew twoLabelName RRType.a classIn ldnsRd
    let r' := ldnsPktQueryNew upperTwoLabelName RRType.a classIn ldnsRd
    r.question = [q] ∧ r'.question = [q'] ∧ (∀ l ∈ q.owner.labels, 0x2E ∉ l) ∧
      (∀ l ∈ q'.owner.labels, 0x2E ∉ l) ∧
      (getCacheKey r = getCacheKey r' ↔ q.type = q'.type ∧ q.cls = q'.cls ∧ r.ednsDo = r'.ednsDo ∧
        r.cd = r'.cd ∧ q.owner.EqUpToCase q'.owner) :=
  ⟨rfl, rfl, by decide, by decide, getCacheKey_eq_iff rfl rfl (by decide) (by decide)⟩

def dottedLabelName : DName := ⟨[[0x61, 0x2E, 0x62]], by decide, by decide⟩

/-- The key joins labels with an unescaped `.`, so the one-label name `a.b` and the two-label
name `a.b` share a key though their labels differ. -/
theorem getCacheKey_dotted_label_collision :
    getCacheKey (ldnsPktQueryNew dottedLabelName RRType.a classIn ldnsRd) =
      getCacheKey (ldnsPktQueryNew twoLabelName RRType.a classIn ldnsRd) ∧
    ¬dottedLabelName.EqUpToCase twoLabelName :=
  ⟨by decide, by decide⟩

end DnsProxy
