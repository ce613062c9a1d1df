/-
What loading promises. A file that is there is loaded, or refused with an error that says what is
wrong with it as a YAML document or as a configuration, with these exceptions: a part that is no
UTF-8, an escape for a code point beyond the last one, a version with too long a number, a scalar
that has no value under its tag or in its form, and too many collections or merges inside each
other. Each exception shows in the text of the file as far as it is read. What comes first in the
file decides the error, so bytes that are no UTF-8 always keep a file from being loaded, but need
not be what is wrong with it first.
-/
import ClusterPilot.Config.Load
import ClusterPilot.Proofs.Yaml.Breakage
import ClusterPilot.Proofs.Yaml.Nesting
import ClusterPilot.Proofs.Yaml.Source
import ClusterPilot.Proofs.Yaml.Values
import ClusterPilot.Proofs.Yaml.Walk

namespace ClusterPilot

namespace Yaml

variable {src : Source}

/-- Where an error comes from that reading a text does not promise. -/
inductive Stray (src : Source) : Error → Prop
  /-- The part that ends what can be read is damaged. -/
  | beyond {e : Error} (beyond : src.beyond = some e) : Stray src e
  | escape {e : Error} (escape : IsBeyond src.chars e) : Stray src e
  | version {e : Error} (version : IsLongVersion src.chars e) : Stray src e
  /-- A plain scalar has the form of a value and no tag. -/
  | plain {text : List Char} {e : Error} (scalar : .scalar text true ∈ (Scan.ofSource src).tokens)
    (kind : e ∈ [.noSuchValue, .hugePlace])
    (noValue : ScalarData.ofText (Tag.ofPlain text) text = .error e) : Stray src e
  /-- A tag stands in front of a scalar that has no value under it. -/
  | tagged {name : TagName} {whole text : List Char} {rest : List Token} {e : Error}
    (mark : '!' ∈ src.chars) (tags : Tags (Scan.ofSource src).tokens name rest)
    (resolves : Resolves (Scan.ofSource src).tokens name whole) (scalar : text = leadingText rest)
    (kind : e ∈ ScalarData.strays (Builder.tagOr (Tag.ofPlain text) (some whole)))
    (noValue : ScalarData.ofText (Builder.tagOr (Tag.ofPlain text) (some whole)) text = .error e) :
    Stray src e
  | deep (isDeep : IsDeep (Scan.ofSource src).tokens) : Stray src .tooDeep
  /-- The document asks for as many merges as there may be inside each other, or more. -/
  | merges {g : Graph} (graph : Graph.ofScan (Scan.ofSource src) = .ok (some g))
    (crowded : maxCalls ≤ g.merges) : Stray src .tooDeep
  /-- A mapping stands for a scalar, and its default value does not give one. -/
  | default {g : Graph} {tag : Tag} {es : List (Nat × Nat)} {e : Error}
    (graph : Graph.ofScan (Scan.ofSource src) = .ok (some g)) (node : ⟨tag, .mapping es⟩ ∈ g.nodes)
    (noCollection : tag.isCollection = false) (misses : g.Misses tag e) : Stray src e

theorem Breaks.stray {e : Error} (h : Breaks src e) : e.isPromised = true ∨ Stray src e := by
  cases h with
  | promised h => exact .inl h
  | beyond h => exact .inr (.beyond h)
  | escape h => exact .inr (.escape h)
  | version h => exact .inr (.version h)

/-- Bytes that are no UTF-8 are met only where they end what can be read. -/
theorem Stray.undecodable (h : Stray src .undecodable) : src.beyond = some .undecodable := by
  have hstrays : ∀ tag, Error.undecodable ∉ ScalarData.strays tag := by
    intro tag
    cases tag <;> decide
  cases h with
  | beyond beyond => exact beyond
  | escape escape =>
    obtain ⟨ds, -, -, -, -, he⟩ := escape
    split at he <;> cases he
  | version version =>
    obtain ⟨front, ds, -, -, -, -, he⟩ := version
    cases he
  | plain scalar kind noValue => exact absurd kind (by decide)
  | tagged mark tags resolves scalar kind noValue => exact absurd kind (hstrays _)
  | default graph node noCollection misses =>
    cases misses with
    | noValue hasText noValue =>
      rcases (ScalarData.ofText_fails ..).error noValue with hpromised | hkind
      · cases hpromised
      · exact absurd hkind (hstrays _)

end Yaml

namespace Config

/-- The errors that loading promises for a file that is there. -/
def LoadError.isPromised : LoadError → Bool
  | .notReadable e => e.isPromised
  | .invalid _ => true
  | .missing _ | .directory _ | .unnameable _ => false

variable {files : Files} {path : String} {bytes : List UInt8}

end Config

end ClusterPilot
