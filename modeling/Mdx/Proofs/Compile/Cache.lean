import Mathlib.Data.List.Basic
import Mathlib.Data.List.Induction
import Mathlib.Data.Set.Function
import Mdx.Compile.Cache

/-!
# Runs of a compiler cache

A cache is asked for compilers and emptied, in any order. As long as no two of the configurations
that are asked for have one fingerprint, the run alone tells which compiler is handed out and when
it is handed out again:

* `Keyed`, what the slot has to do with the configurations that were asked for;
* `Retired`, the compilers that are never handed out again;
* `run_serves`, the main statement.
-/

namespace Mdx.Cache

/-! ## Runs -/

/-- The uses of a cache. -/
inductive Use where
  | get (config : Config)
  | reset

def step (c : Cache) : Use → Cache
  | .get config => (c.get config).cache
  | .reset => c.reset

def run (c : Cache) (uses : List Use) : Cache :=
  uses.foldl step c

/-- A cache that was empty at first, after some uses. -/
def after (uses : List Use) : Cache :=
  run {} uses

/-- The configurations that are asked for. -/
def requested (uses : List Use) : Set Config :=
  {config | .get config ∈ uses}

variable {c : Cache} {uses earlier between : List Use} {use : Use} {a b config : Config} {p : Nat}

theorem run_append (c : Cache) (uses more : List Use) :
    c.run (uses ++ more) = (c.run uses).run more :=
  List.foldl_append

theorem after_append (uses more : List Use) : after (uses ++ more) = (after uses).run more :=
  run_append {} uses more

theorem after_concat (uses : List Use) (use : Use) :
    after (uses ++ [use]) = (after uses).step use :=
  after_append uses [use]

/-! ## One request -/

/-- A compiler that is ready under the fingerprint is handed out, and nothing changes. -/
theorem get_of_slot {entry : Entry c.built} (hslot : c.slot = some entry)
    (h : entry.fingerprint = config.fingerprint) :
    c.get config = { cache := c, place := entry.place, log := [] } := by
  rw [get, hslot]
  exact if_pos h

/-- All that a request can do: hand out the compiler that is ready, or build one. -/
theorem get_cases (c : Cache) (config : Config) :
    (∃ entry, c.slot = some entry ∧ entry.fingerprint = config.fingerprint
        ∧ c.get config = { cache := c, place := entry.place, log := [] })
      ∨ ∃ log, c.get config = c.build config log := by
  cases hslot : c.slot with
  | none => exact .inr ⟨[], by rw [get, hslot]⟩
  | some entry =>
      by_cases h : entry.fingerprint = config.fingerprint
      · exact .inl ⟨entry, rfl, h, get_of_slot hslot h⟩
      · exact .inr ⟨[.debug "Compiler configuration changed; rebuilding"],
          by rw [get, hslot]; exact if_neg h⟩

theorem compiler_build (c : Cache) (config : Config) (log : List Log) :
    (c.build config log).compiler = .ofConfig config := by
  simp [Grant.compiler, build]

/-- What was handed out is ready afterwards. -/
theorem slot_get (c : Cache) (config : Config) :
    (c.get config).cache.slot = some ⟨config.fingerprint, (c.get config).place⟩ := by
  obtain ⟨⟨fingerprint, place⟩, hslot, rfl, hget⟩ | ⟨log, hget⟩ := get_cases c config
  · rw [hget]
    exact hslot
  · rw [hget]
    rfl

/-- No compiler is changed by a request. -/
theorem built_get (c : Cache) (config : Config) : c.built <+: (c.get config).cache.built := by
  obtain ⟨entry, -, -, hget⟩ | ⟨log, hget⟩ := get_cases c config
  · simp [hget]
  · rw [hget]
    exact List.prefix_append _ _

theorem built_step (c : Cache) (use : Use) : c.built <+: (c.step use).built := by
  cases use with
  | get config => exact built_get c config
  | reset => exact List.prefix_refl _

/-- No compiler is changed by a run. -/
theorem built_run (c : Cache) (uses : List Use) : c.built <+: (c.run uses).built := by
  induction uses generalizing c with
  | nil => exact List.prefix_refl _
  | cons use rest ih => exact (built_step c use).trans (ih (c.step use))

/-- A compiler that was built stays as it is in a run. -/
theorem getElem?_run {compiler : Compiler} (h : c.built[p]? = some compiler) (later : List Use) :
    (c.run later).built[p]? = some compiler := by
  obtain ⟨more, hmore⟩ := built_run c later
  obtain ⟨hp, -⟩ := List.getElem?_eq_some_iff.mp h
  rw [← hmore, List.getElem?_append_left hp, h]

/-! ## The compiler that is handed out -/

/-- What is ready is the compiler of a configuration that is asked for, under its fingerprint. -/
def Keyed (uses : List Use) (c : Cache) : Prop :=
  ∀ entry, c.slot = some entry → ∃ config ∈ requested uses,
    entry.fingerprint = config.fingerprint ∧ c.built.get entry.place = .ofConfig config

/-- The compiler of the configuration is handed out. -/
theorem Keyed.compiler_get (h : Keyed uses c) (hinj : (requested uses).InjOn Config.fingerprint)
    (hconfig : .get config ∈ uses) : (c.get config).compiler = .ofConfig config := by
  obtain ⟨entry, hslot, hentry, hget⟩ | ⟨log, hget⟩ := get_cases c config
  · obtain ⟨other, hother, hfingerprint, hplace⟩ := h entry hslot
    obtain rfl := hinj hother hconfig (hfingerprint.symm.trans hentry)
    rw [hget]
    exact hplace
  · rw [hget, compiler_build]

theorem Keyed.getElem?_get (h : Keyed uses c) (hinj : (requested uses).InjOn Config.fingerprint)
    (hconfig : .get config ∈ uses) :
    (c.get config).cache.built[(c.get config).place.val]? = some (.ofConfig config) := by
  rw [← h.compiler_get hinj hconfig]
  exact List.getElem?_eq_getElem _

theorem Keyed.step (h : Keyed uses c) (hinj : (requested uses).InjOn Config.fingerprint)
    (huse : use ∈ uses) : Keyed uses (c.step use) := by
  intro entry hslot
  cases use with
  | get config =>
      obtain rfl := Option.some.inj ((slot_get c config).symm.trans hslot)
      exact ⟨config, huse, rfl, h.compiler_get hinj huse⟩
  | reset => cases hslot

theorem keyed_after (hinj : (requested uses).InjOn Config.fingerprint)
    (hearlier : earlier <+: uses) : Keyed uses (after earlier) := by
  induction earlier using List.reverseRecOn with
  | nil => exact fun entry hslot => nomatch hslot
  | append_singleton earlier use ih =>
      rw [after_concat]
      exact (ih ((List.prefix_append _ _).trans hearlier)).step hinj (hearlier.subset (by simp))

/-- Whatever happens later, a compiler that was handed out is the one of its configuration. -/
theorem getElem?_after (hinj : (requested uses).InjOn Config.fingerprint) {later : List Use}
    (hlater : earlier ++ .get config :: later <+: uses) :
    (after (earlier ++ .get config :: later)).built[((after earlier).get config).place.val]?
      = some (.ofConfig config) := by
  have hkeyed := keyed_after hinj ((List.prefix_append _ _).trans hlater)
  rw [List.append_cons, after_append, after_concat]
  exact getElem?_run (hkeyed.getElem?_get hinj (hlater.subset (by simp))) later

/-! ## Compilers that are not handed out again -/

/-- The compiler at a place was built and is not ready any more. -/
structure Retired (p : Nat) (c : Cache) : Prop where
  built : p < c.built.length
  gone : ∀ entry, c.slot = some entry → entry.place.val ≠ p

theorem Retired.place_get (h : Retired p c) (config : Config) :
    (c.get config).place.val ≠ p := by
  obtain ⟨entry, hslot, -, hget⟩ | ⟨log, hget⟩ := get_cases c config
  · rw [hget]
    exact h.gone entry hslot
  · rw [hget]
    exact Nat.ne_of_gt h.built

theorem Retired.step (h : Retired p c) (use : Use) : Retired p (c.step use) := by
  refine ⟨Nat.lt_of_lt_of_le h.built (built_step c use).length_le, fun entry hslot => ?_⟩
  cases use with
  | get config =>
      obtain rfl := Option.some.inj ((slot_get c config).symm.trans hslot)
      exact h.place_get config
  | reset => cases hslot

theorem Retired.run (h : Retired p c) (uses : List Use) : Retired p (c.run uses) := by
  induction uses generalizing c with
  | nil => exact h
  | cons use rest ih => exact ih (h.step use)

/-- A use that does not ask for the configuration of a compiler retires it. -/
theorem Keyed.retired_step (h : Keyed uses c) (hinj : (requested uses).InjOn Config.fingerprint)
    (huse : use ∈ uses) (hp : c.built[p]? = some (.ofConfig a)) (hne : use ≠ .get a) :
    Retired p (c.step use) := by
  have hstep : (c.step use).built[p]? = some (.ofConfig a) := getElem?_run hp [use]
  refine ⟨(List.getElem?_eq_some_iff.mp hstep).1, fun entry hslot hplace => ?_⟩
  cases use with
  | reset => cases hslot
  | get config =>
      obtain rfl := Option.some.inj ((slot_get c config).symm.trans hslot)
      have hsame : Compiler.ofConfig config = .ofConfig a :=
        Option.some.inj ((h.getElem?_get hinj huse).symm.trans (hplace ▸ hstep))
      exact hne (congrArg (Use.get ·.config) hsame)

theorem retired_after (hinj : (requested uses).InjOn Config.fingerprint)
    (hbetween : earlier ++ between <+: uses)
    (hp : (after earlier).built[p]? = some (.ofConfig a)) (huse : use ∈ between)
    (hne : use ≠ .get a) : Retired p (after (earlier ++ between)) := by
  have hmem : use ∈ uses := hbetween.subset (List.mem_append_right _ huse)
  obtain ⟨first, rest, rfl⟩ := List.append_of_mem huse
  rw [← List.append_assoc] at hbetween ⊢
  have hfirst : (after (earlier ++ first)).built[p]? = some (.ofConfig a) := by
    rw [after_append]
    exact getElem?_run hp first
  have hkeyed := keyed_after hinj ((List.prefix_append _ _).trans hbetween)
  rw [after_append]
  exact (hkeyed.retired_step hinj hmem hfirst hne).run rest

/-! ## Repeated requests -/

/-- Asking once more changes nothing. -/
theorem get_get (c : Cache) (config : Config) :
    (c.get config).cache.get config
      = { cache := (c.get config).cache, place := (c.get config).place, log := [] } :=
  get_of_slot (slot_get c config) rfl

theorem run_repeated (h : ∀ use ∈ between, use = .get config) :
    (c.get config).cache.run between = (c.get config).cache := by
  induction between with
  | nil => rfl
  | cons use rest ih =>
      obtain ⟨rfl, hrest⟩ := List.forall_mem_cons.mp h
      show ((c.get config).cache.get config).cache.run rest = _
      rw [get_get, ih hrest]

/-- Two requests are given one compiler just if the second and all uses in between ask for the
configuration of the first. -/
theorem place_eq_iff (hinj : (requested uses).InjOn Config.fingerprint)
    (hb : earlier ++ Use.get a :: (between ++ [Use.get b]) <+: uses) :
    ((after earlier).get a).place.val = ((after (earlier ++ .get a :: between)).get b).place.val
      ↔ a = b ∧ ∀ use ∈ between, use = .get a := by
  have hsplit : earlier ++ Use.get a :: (between ++ [Use.get b])
      = (earlier ++ Use.get a :: between) ++ [Use.get b] := by simp
  constructor
  · intro hplace
    have hfirst := getElem?_after hinj hb
    rw [hsplit] at hb hfirst
    have hsecond := getElem?_after hinj hb
    rw [← hplace, hfirst] at hsecond
    refine ⟨congrArg Compiler.config (Option.some.inj hsecond), fun use huse => ?_⟩
    by_contra hne
    -- some use in between retires the compiler that was handed out first
    have hbetween : earlier ++ [Use.get a] ++ between <+: uses := by
      rw [← List.append_cons]
      exact (List.prefix_append _ _).trans hb
    have hretired := retired_after hinj hbetween
      (getElem?_after hinj ((List.prefix_append _ _).trans hbetween)) huse hne
    rw [← List.append_cons] at hretired
    exact hretired.place_get b hplace.symm
  · rintro ⟨rfl, hall⟩
    rw [List.append_cons, after_append, after_concat]
    show _ = ((((after earlier).get a).cache.run between).get a).place.val
    rw [run_repeated hall, get_get]

/-! ## Warm caches -/

/-- The last use tells whether there is a compiler in the cache. -/
theorem isWarm_step (c : Cache) (use : Use) : (c.step use).isWarm = true ↔ use ≠ .reset := by
  cases use with
  | get config => simp [step, isWarm, slot_get]
  | reset => simp [step, isWarm, reset]

theorem isWarm_after (uses : List Use) :
    (after uses).isWarm = true
      ↔ ∃ before config since, uses = before ++ Use.get config :: since ∧ Use.reset ∉ since := by
  rcases uses.eq_nil_or_concat with rfl | ⟨earlier, use, rfl⟩
  · simp [after, run, isWarm]
  rw [List.concat_eq_append, after_concat, isWarm_step]
  constructor
  · intro huse
    cases use with
    | get config => exact ⟨earlier, config, [], rfl, by simp⟩
    | reset => exact absurd rfl huse
  · rintro ⟨before, config, since, huses, hsince⟩ rfl
    have hlast : (Use.get config :: since).getLast? = some .reset := by
      rw [← List.getLast?_append_cons before, ← huses, List.getLast?_concat]
    exact hsince (by simpa using List.mem_of_getLast? hlast)

/-! ## Whole runs -/

/-- What the users of a cache can rely on in a run, at every point of it. -/
structure Serves (uses : List Use) : Prop where
  /-- A compiler of the configuration that was asked for is handed out. -/
  granted : ∀ earlier config, earlier ++ [.get config] <+: uses →
    ((after earlier).get config).compiler.config = config
  /-- Two requests are given one and the same compiler exactly if they are for one configuration,
  and in between the cache is neither emptied nor asked for another one. -/
  shared : ∀ earlier a between b, earlier ++ .get a :: (between ++ [.get b]) <+: uses →
    (((after earlier).get a).place.val = ((after (earlier ++ .get a :: between)).get b).place.val
      ↔ a = b ∧ .reset ∉ between ∧ ∀ other, .get other ∈ between → other = a)
  /-- A compiler that was handed out stays the one of its configuration. -/
  kept : ∀ earlier config later, earlier ++ .get config :: later <+: uses →
    (after (earlier ++ .get config :: later)).built[((after earlier).get config).place.val]?
      = some (.ofConfig config)
  /-- The cache has a compiler exactly if it was asked for one since it was emptied last. -/
  warm : ∀ earlier, earlier <+: uses → ((after earlier).isWarm = true
    ↔ ∃ before config since, earlier = before ++ .get config :: since ∧ .reset ∉ since)

theorem forall_eq_get_iff :
    (∀ use ∈ uses, use = .get a) ↔ .reset ∉ uses ∧ ∀ other, .get other ∈ uses → other = a := by
  constructor
  · intro h
    exact ⟨fun hreset => (nomatch h _ hreset), fun other hother => Use.get.inj (h _ hother)⟩
  · rintro ⟨hreset, hget⟩ use huse
    cases use with
    | get other => rw [hget other huse]
    | reset => exact absurd huse hreset

/-- A cache serves its users in every run in which the configurations that are asked for have
fingerprints of their own. -/
theorem run_serves (h : (requested uses).InjOn Config.fingerprint) : Serves uses where
  granted earlier config hconfig := by
    have hkeyed := keyed_after h ((List.prefix_append _ _).trans hconfig)
    rw [hkeyed.compiler_get h (hconfig.subset (by simp))]
    rfl
  shared earlier a between b hb := by rw [place_eq_iff h hb, forall_eq_get_iff]
  kept earlier config later hlater := getElem?_after h hlater
  warm earlier _ := isWarm_after earlier

/-- Another prefix than the one that is set by default. -/
def domConfig : Config := { tagPrefix := "dom." }

/-- Two configurations in turn, and the first one again, before and after the cache is emptied. -/
def alternation : List Use :=
  [.get {}, .get domConfig, .get {}, .get {}, .reset, .get {}]

theorem run_serves_alternation :
    (requested alternation).InjOn Config.fingerprint
      ∧ ((after []).get {}).place.val ≠ ((after [.get {}, .get domConfig]).get {}).place.val
      ∧ ((after [.get {}, .get domConfig]).get {}).place.val
        = ((after [.get {}, .get domConfig, .get {}]).get {}).place.val
      ∧ (after alternation).built[((after [.get {}]).get domConfig).place.val]?
        = some (.ofConfig domConfig)
      ∧ (after alternation).isWarm = true := by
  have hfingerprint : ({} : Config).fingerprint ≠ domConfig.fingerprint := by decide +kernel
  have hinj : (requested alternation).InjOn Config.fingerprint := by
    have hmem : ∀ config, .get config ∈ alternation → config = {} ∨ config = domConfig := by
      intro config hconfig
      simpa [alternation, or_assoc, or_comm, or_left_comm] using hconfig
    intro a ha b hb hab
    rcases hmem a ha with rfl | rfl <;> rcases hmem b hb with rfl | rfl
    · rfl
    · exact absurd hab hfingerprint
    · exact absurd hab.symm hfingerprint
    · rfl
  have hserves := run_serves hinj
  refine ⟨hinj, ?_, ?_, ?_, ?_⟩
  · intro hplace
    have hshared := (hserves.shared [] {} [.get domConfig] {} ⟨_, rfl⟩).mp hplace
    exact hfingerprint (congrArg Config.fingerprint (hshared.2.2 domConfig (by simp)).symm)
  · exact (hserves.shared [.get {}, .get domConfig] {} [] {} ⟨_, rfl⟩).mpr ⟨rfl, by simp, by simp⟩
  · exact hserves.kept [.get {}] domConfig _ ⟨[], rfl⟩
  · exact (hserves.warm _ (List.prefix_refl _)).mpr ⟨alternation.take 5, {}, [], rfl, by simp⟩

end Mdx.Cache
