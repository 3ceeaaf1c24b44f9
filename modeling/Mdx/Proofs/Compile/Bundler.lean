import Mdx.Compile.Bundler
import Mdx.Proofs.Text

/-!
# Installing the transformer

What an installation does to the configuration of a bundler. The transformer of the user and the
extensions that are there stay, and installing once more changes nothing. Whether the extensions of
documents are added is told by one of them alone, so both can be imported afterwards, each listed
once, just if there were both before or none of them (`install_complete_iff`).
-/

namespace Mdx.Bundler

/-- A transformer that came with the bundler. -/
def IsStock (path : String) : Prop :=
  ∃ front, path = front ++ stockTransformer

namespace Setup

variable (s : Setup)

/-! ## The transformer -/

variable {s} in
theorem custom?_eq_some_iff {path : String} :
    s.custom? = some path ↔ s.transformerPath = some path ∧ ¬ IsStock path := by
  rw [custom?, Option.filter_eq_some_iff, IsStock, ← Text.hasSuffix_iff]
  simp

theorem custom?_eq_none_iff :
    s.custom? = none ↔ ∀ path, s.transformerPath = some path → IsStock path := by
  simp only [Option.eq_none_iff_forall_ne_some, ne_eq, custom?_eq_some_iff, not_and,
    Classical.not_not]

/-- The transformer that is installed did not come with the bundler. -/
theorem not_isStock_transformerPath : ¬ IsStock Bundler.transformerPath := by
  rw [IsStock, ← Text.hasSuffix_iff]
  decide

/-- After an installation the transformer is taken for one of the user. -/
theorem custom?_install : s.install.custom? = s.install.transformerPath := by
  refine custom?_eq_some_iff.mpr ⟨rfl, ?_⟩
  cases hcustom : s.custom? with
  | none => exact not_isStock_transformerPath
  | some path => exact (custom?_eq_some_iff.mp hcustom).2

/-! ## The extensions -/

variable {s} in
theorem sourceExts_install_of_mem (h : "md" ∈ s.sourceExts) :
    s.install.sourceExts = s.sourceExts :=
  if_pos (List.contains_iff_mem.mpr h)

variable {s} in
theorem sourceExts_install_of_notMem (h : "md" ∉ s.sourceExts) :
    s.install.sourceExts = s.sourceExts ++ ["md", "mdx"] :=
  if_neg (by simpa using h)

theorem md_mem_install : "md" ∈ s.install.sourceExts := by
  by_cases h : "md" ∈ s.sourceExts
  · rwa [sourceExts_install_of_mem h]
  · simp [sourceExts_install_of_notMem h]

theorem mdx_mem_install_iff :
    "mdx" ∈ s.install.sourceExts ↔ ("md" ∈ s.sourceExts → "mdx" ∈ s.sourceExts) := by
  by_cases h : "md" ∈ s.sourceExts
  · simp [sourceExts_install_of_mem h, h]
  · simp [sourceExts_install_of_notMem h, h]

/-- An extension is listed more often than before only if it was not listed, and then once. -/
def AddedOnce (s t : Setup) : Prop :=
  ∀ ext, s.sourceExts.count ext < t.sourceExts.count ext →
    ext ∉ s.sourceExts ∧ t.sourceExts.count ext = 1

theorem addedOnce_install_iff :
    AddedOnce s s.install ↔ ("mdx" ∈ s.sourceExts → "md" ∈ s.sourceExts) := by
  by_cases h : "md" ∈ s.sourceExts
  · simp [AddedOnce, sourceExts_install_of_mem h, h]
  simp only [AddedOnce, sourceExts_install_of_notMem h, List.count_append, h, imp_false]
  constructor
  · intro honce
    exact (honce "mdx" (by simp)).1
  · intro hmdx ext hcount
    have hadded : ext = "md" ∨ ext = "mdx" := by
      refine Classical.byContradiction fun hother => ?_
      have hnone : ["md", "mdx"].count ext = 0 := List.count_eq_zero.mpr (by simpa using hother)
      omega
    rcases hadded with rfl | rfl
    · exact ⟨h, by rw [List.count_eq_zero.mpr h]; rfl⟩
    · exact ⟨hmdx, by rw [List.count_eq_zero.mpr hmdx]; rfl⟩

/-! ## Installations -/

/-- Installing once more changes nothing. -/
theorem install_install : s.install.install = s.install := by
  have hpath : s.install.install.transformerPath = s.install.transformerPath := by
    show some (s.install.custom?.getD Bundler.transformerPath) = _
    rw [custom?_install]
    rfl
  have hexts : s.install.install.sourceExts = s.install.sourceExts :=
    sourceExts_install_of_mem (md_mem_install s)
  calc
    s.install.install = ⟨s.install.install.transformerPath, s.install.install.sourceExts⟩ := rfl
    _ = s.install := by rw [hpath, hexts]

/-- What every installation is to keep. -/
structure Kept (s t : Setup) : Prop where
  extensions : s.sourceExts <+: t.sourceExts
  custom : ∀ path, s.transformerPath = some path → ¬ IsStock path → t.transformerPath = some path
  /-- Only a transformer that came with the bundler is replaced. -/
  replaced : (∀ path, s.transformerPath = some path → IsStock path) →
    t.transformerPath = some Bundler.transformerPath
  settled : t.install = t

/-- An installation after which documents of both kinds can be imported. -/
structure Complete (s t : Setup) : Prop extends Kept s t where
  md : "md" ∈ t.sourceExts
  mdx : "mdx" ∈ t.sourceExts
  once : AddedOnce s t

theorem kept_install : Kept s s.install where
  extensions := by
    by_cases h : "md" ∈ s.sourceExts
    · simp [sourceExts_install_of_mem h]
    · rw [sourceExts_install_of_notMem h]
      exact List.prefix_append _ _
  custom path hpath hcustom := by
    have hset : s.custom? = some path := custom?_eq_some_iff.mpr ⟨hpath, hcustom⟩
    rw [install, hset]
    rfl
  replaced hstock := by
    rw [install, (custom?_eq_none_iff s).mpr hstock]
    rfl
  settled := install_install s

/-- Every installation keeps what it is to keep and lists `md`. It leaves `mdx` out just if only
`md` was listed, and lists `mdx` once more just if only `mdx` was; so it is complete just if both
were listed before or none of them. -/
theorem install_complete_iff :
    Kept s s.install
      ∧ "md" ∈ s.install.sourceExts
      ∧ ("mdx" ∈ s.install.sourceExts ↔ ("md" ∈ s.sourceExts → "mdx" ∈ s.sourceExts))
      ∧ (AddedOnce s s.install ↔ ("mdx" ∈ s.sourceExts → "md" ∈ s.sourceExts))
      ∧ (Complete s s.install ↔ ("md" ∈ s.sourceExts ↔ "mdx" ∈ s.sourceExts)) := by
  refine ⟨kept_install s, md_mem_install s, mdx_mem_install_iff s, addedOnce_install_iff s, ?_⟩
  constructor
  · intro h
    exact ⟨(mdx_mem_install_iff s).mp h.mdx, (addedOnce_install_iff s).mp h.once⟩
  · intro h
    exact
      { toKept := kept_install s
        md := md_mem_install s
        mdx := (mdx_mem_install_iff s).mpr h.mp
        once := (addedOnce_install_iff s).mpr h.mpr }

/-- Where only `md` is listed, `mdx` cannot be imported after an installation; where only `mdx` is,
it is then listed twice. -/
theorem install_incomplete :
    (install { sourceExts := ["md"] }).sourceExts = ["md"]
      ∧ ¬ Complete { sourceExts := ["md"] } (install { sourceExts := ["md"] })
      ∧ (install { sourceExts := ["mdx"] }).sourceExts = ["mdx", "md", "mdx"]
      ∧ ¬ Complete { sourceExts := ["mdx"] } (install { sourceExts := ["mdx"] }) := by
  refine ⟨rfl, fun h => ?_, rfl, fun h => ?_⟩
  · exact absurd h.mdx (by decide)
  · exact absurd (h.once "mdx" (by decide)).1 (by decide)

end Setup

end Mdx.Bundler
