import Mdx.Compile.Compiler

/-!
# Compiler cache

A cache has the compiler ready that was asked for last, under the fingerprint of its configuration.
A compiler is never changed: another configuration takes its place in the cache with a compiler of
its own, and those who hold the old one keep it.
-/

namespace Mdx

/-- What a cache has ready: one of the compilers that were built. -/
structure Cache.Entry (built : List Compiler) where
  fingerprint : UInt64
  place : Fin built.length

/-- A cache of one compiler. -/
structure Cache where
  /-- All compilers that were built, in order; any of them may still be held. -/
  built : List Compiler := []
  slot : Option (Cache.Entry built) := none

namespace Cache

/-- A compiler that is handed out, by its place among those that were built. -/
structure Grant where
  /-- The cache afterwards. -/
  cache : Cache
  place : Fin cache.built.length
  log : List Log

def Grant.compiler (g : Grant) : Compiler :=
  g.cache.built.get g.place

/-- Builds the compiler of a configuration and has it ready. -/
def build (c : Cache) (config : Config) (log : List Log) : Grant :=
  { cache :=
      { built := c.built ++ [.ofConfig config]
        slot := some ⟨config.fingerprint, ⟨c.built.length, by simp⟩⟩ }
    place := ⟨c.built.length, by simp⟩
    log := log }

/-- The compiler of a configuration: the one that is ready under its fingerprint, or else a new one
that takes its place. The log says when one configuration replaces another. -/
def get (c : Cache) (config : Config) : Grant :=
  match c.slot with
  | none => c.build config []
  | some entry =>
    if entry.fingerprint = config.fingerprint then { cache := c, place := entry.place, log := [] }
    else c.build config [.debug "Compiler configuration changed; rebuilding"]

/-- Empties the cache. -/
def reset (c : Cache) : Cache :=
  { c with slot := none }

/-- There is a compiler in the cache. -/
def isWarm (c : Cache) : Bool :=
  c.slot.isSome

end Cache

end Mdx
