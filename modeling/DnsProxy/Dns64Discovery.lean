import DnsProxy.System

/-! # DNS64 prefix discovery

The detached thread `dns_forwarder::init` starts makes `max_tries` passes over `dns64->upstreams`
and stores the first prefixes found. What each try meets is a parameter; the last section runs the
forwarder beside the thread.
-/

namespace DnsProxy

set_option autoImplicit false

/-- What the discovery thread meets at one upstream in one pass: `create_upstream` fails,
`dns64::discover_prefixes` fails, or it returns its prefixes, possibly none. -/
inductive DiscoveryTry
  | createFailed (err : String)
  | discoverFailed (err : String)
  | discovered (result : List (List UInt8))

/-- The `for` over the upstreams of one pass: the prefixes the thread stores before it returns,
if an upstream gives some. -/
def forUpstreams : List DiscoveryTry → Option (List (List UInt8))
  | [] => none
  | .createFailed _ :: rest => forUpstreams rest
  | .discoverFailed _ :: rest => forUpstreams rest
  | .discovered result :: rest => if result.isEmpty then forUpstreams rest else some result

/-- What the discovery thread did: how many times it slept `wait_time`, and what it stored in
`dns64_prefixes->val`, if anything. -/
structure DiscoveryRun where
  sleeps : Nat
  stored : Option (List (List UInt8))

/-- The `while (i--)` loop of the discovery thread, from `i` tries left. -/
def whileTries (tries : Nat → List DiscoveryTry) : Nat → DiscoveryRun
  | 0 => ⟨0, none⟩
  | i + 1 =>
    match forUpstreams (tries i) with
    | some result => ⟨1, some result⟩
    | none => ⟨(whileTries tries i).sleeps + 1, (whileTries tries i).stored⟩

/-- The body of `prefixes_discovery_thread`, started with `max_tries`. -/
def prefixesDiscoveryThread (maxTries : Nat) (tries : Nat → List DiscoveryTry) : DiscoveryRun :=
  whileTries tries maxTries

/-! ## The first prefixes found, in the order they are tried -/

/-- The prefixes a try gives the thread: those `discover_prefixes` found, when there are some. -/
def DiscoveryTry.prefixes? : DiscoveryTry → Option (List (List UInt8))
  | .discovered (p :: ps) => some (p :: ps)
  | _ => none

/-- The passes of `max_tries` tries, in the order they run: by the tries left, from the most. -/
def passOrder (maxTries : Nat) : List Nat := (List.range maxTries).reverse

theorem passOrder_succ (n : Nat) : passOrder (n + 1) = n :: passOrder n := by
  simp [passOrder, List.range_succ]

theorem forUpstreams_eq_findSome? (ts : List DiscoveryTry) :
    forUpstreams ts = ts.findSome? DiscoveryTry.prefixes? := by
  induction ts with
  | nil => rfl
  | cons t ts ih =>
    cases t with
    | discovered result => cases result <;> simp [forUpstreams, DiscoveryTry.prefixes?, ih]
    | _ => simp [forUpstreams, DiscoveryTry.prefixes?, ih]

variable (tries : Nat → List DiscoveryTry)

theorem whileTries_stored (n : Nat) :
    (whileTries tries n).stored = ((passOrder n).flatMap tries).findSome? DiscoveryTry.prefixes? := by
  induction n with
  | zero => rfl
  | succ n ih =>
    rw [passOrder_succ, List.flatMap_cons, List.findSome?_append, ← forUpstreams_eq_findSome?]
    cases h : forUpstreams (tries n) <;> simp [whileTries, h, ih]

theorem whileTries_stored_ne_nil {n : Nat} {p : List (List UInt8)} (h : (whileTries tries n).stored = some p) :
    p ≠ [] := by
  rw [whileTries_stored] at h
  obtain ⟨t, -, ht⟩ := List.exists_of_findSome?_eq_some h
  rcases t with _ | _ | _ | ⟨q, qs⟩ <;> cases ht
  exact List.cons_ne_nil q qs

theorem whileTries_sleeps (n : Nat) :
    (whileTries tries n).sleeps =
      min ((passOrder n).findIdx (fun i => (forUpstreams (tries i)).isSome) + 1) n := by
  induction n with
  | zero => rfl
  | succ n ih =>
    rw [passOrder_succ, List.findIdx_cons]
    cases h : forUpstreams (tries n) with
    | none => simp [whileTries, h, ih]; omega
    | some result => simp [whileTries, h]

/-- The discovery thread stores the first prefixes found, in the order it tries the upstreams
pass after pass, and nothing when no try finds any. It sleeps `wait_time` before every pass it
makes, the first included: once more than the passes before the one that finds prefixes, and
`max_tries` times when none does. -/
theorem prefixesDiscoveryThread_spec (maxTries : Nat) :
    (prefixesDiscoveryThread maxTries tries).stored =
        ((passOrder maxTries).flatMap tries).findSome? DiscoveryTry.prefixes? ∧
      (prefixesDiscoveryThread maxTries tries).sleeps =
        min ((passOrder maxTries).findIdx (fun i => ((tries i).findSome? DiscoveryTry.prefixes?).isSome) + 1)
          maxTries := by
  refine ⟨whileTries_stored tries maxTries, ?_⟩
  simpa only [forUpstreams_eq_findSome?] using whileTries_sleeps tries maxTries

/-! ## The forwarder while the thread runs -/

section Served

variable (x : Externals) (fw : Forwarder)

/-- The states of the forwarder and the prefixes its requests read, over the runs where the
discovery thread stores `found`, if anything, at any moment: before the store every request reads
no prefix. -/
inductive ServedReachable (found : Option (List (List UInt8))) : Sys → List (List UInt8) → Prop
  | init : ServedReachable found (Sys.init fw) []
  | step {s s' : Sys} {prefixes : List (List UInt8)} {a : Action} :
      ServedReachable found s prefixes → step x fw prefixes s a = some s' → ServedReachable found s' prefixes
  | store {s : Sys} {prefixes : List (List UInt8)} :
      ServedReachable found s [] → found = some prefixes → ServedReachable found s prefixes

variable {x fw}

theorem cacheValid_step {prefixes : List (List UInt8)} {s s' : Sys} {a : Action}
    (hValid : s.cache.All fun _ entry => entry.Valid s.now) (h : step x fw prefixes s a = some s') :
    s'.cache.All fun _ entry => entry.Valid s'.now := by
  obtain ⟨hNow, hMem⟩ := step_cache x fw prefixes h
  intro e he
  rcases hMem e he with he | ⟨-, _, _, hEntry⟩
  · exact (hValid e he).mono hNow
  · exact (cachedResponseFor_valid hEntry).mono hNow

/-- While the discovery thread runs, every request reads no prefix or the prefixes the thread
found, which are not empty; and the forwarder's invariants hold in every state, wherever in the
run the thread stores them: every cache entry is valid, and `async_reqs` keeps one task per key. -/
theorem servedReachable_spec (maxTries : Nat) {s : Sys} {prefixes : List (List UInt8)}
    (h : ServedReachable x fw (prefixesDiscoveryThread maxTries tries).stored s prefixes) :
    (prefixes = [] ∨ (prefixesDiscoveryThread maxTries tries).stored = some prefixes ∧ prefixes ≠ []) ∧
      (s.cache.All fun _ entry => entry.Valid s.now) ∧ RegistryInv s := by
  induction h with
  | init => exact ⟨.inl rfl, fun e he => (nomatch he), RegistryInv.init fw⟩
  | step _ hStep ih => exact ⟨ih.1, cacheValid_step ih.2.1 hStep, ih.2.2.after_step x fw _ hStep⟩
  | store _ hFound ih => exact ⟨.inr ⟨hFound, whileTries_stored_ne_nil tries hFound⟩, ih.2⟩

/-- One pass: the first upstream cannot be created, the second finds the prefix `64:ff9b::/96`. -/
def wellKnownTries : Nat → List DiscoveryTry :=
  fun _ => [.createFailed "connection refused", .discovered [[0, 0x64, 0xff, 0x9b, 0, 0, 0, 0, 0, 0, 0, 0]]]

theorem servedReachable_spec_stored :
    ServedReachable sampleExternals (sampleForwarder sampleSettings) (prefixesDiscoveryThread 1 wellKnownTries).stored
        (Sys.init (sampleForwarder sampleSettings)) [[0, 0x64, 0xff, 0x9b, 0, 0, 0, 0, 0, 0, 0, 0]] ∧
      (([[0, 0x64, 0xff, 0x9b, 0, 0, 0, 0, 0, 0, 0, 0]] : List (List UInt8)) = [] ∨
        (prefixesDiscoveryThread 1 wellKnownTries).stored = some [[0, 0x64, 0xff, 0x9b, 0, 0, 0, 0, 0, 0, 0, 0]] ∧
          ([[0, 0x64, 0xff, 0x9b, 0, 0, 0, 0, 0, 0, 0, 0]] : List (List UInt8)) ≠ []) ∧
      ((Sys.init (sampleForwarder sampleSettings)).cache.All fun _ entry =>
        entry.Valid (Sys.init (sampleForwarder sampleSettings)).now) ∧
      RegistryInv (Sys.init (sampleForwarder sampleSettings)) :=
  have h : ServedReachable sampleExternals (sampleForwarder sampleSettings)
      (prefixesDiscoveryThread 1 wellKnownTries).stored (Sys.init (sampleForwarder sampleSettings))
      [[0, 0x64, 0xff, 0x9b, 0, 0, 0, 0, 0, 0, 0, 0]] := .store .init rfl
  ⟨h, servedReachable_spec wellKnownTries 1 h⟩

end Served

end DnsProxy
