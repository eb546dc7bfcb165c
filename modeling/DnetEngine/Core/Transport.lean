import DnetEngine.Lib.Fallible
import DnetEngine.Lib.IpRoundTrip
import DnetEngine.Rules.Builtin

/-! The values that a connection method and the feed that proposes them share: packet sizes, the name a
handshake borrows, and the origin that probes fetch from. -/

namespace DnetEngine

open Lib

def geckoPacketSizeMin : Nat := 256
def geckoPacketSizeMax : Nat := 1400

def geckoPacketSizesValid (minPacketSize maxPacketSize : Nat) : Bool :=
  let inside (size : Nat) : Bool := decide (geckoPacketSizeMin ≤ size ∧ size ≤ geckoPacketSizeMax)
  inside minPacketSize && inside maxPacketSize && decide (minPacketSize ≤ maxPacketSize)

/-- A target domain in lower case, or the reason why it cannot be one. -/
def validateTargetDomain (name : String) : Except String String :=
  let name := String.ofList (name.toList.map Char.toLower)
  if !isDnsHostname name then .error "not a DNS hostname"
  else if captivePortalProbeSuffixes.any (fun suffix => under name suffix) then
    .error "covered by a built-in bypass rule"
  else .ok name

theorem validateTargetDomain_accepted {name accepted : String}
    (valid : validateTargetDomain name = .ok accepted) :
    validateTargetDomain accepted = .ok accepted := by
  have lower : accepted = String.ofList (name.toList.map Char.toLower) := by
    obtain ⟨_, valid⟩ := refused_ok.mp valid
    split at valid <;> cases valid
    rfl
  have again : accepted.toList.map Char.toLower = name.toList.map Char.toLower := by
    simp [lower, toLower_toLower]
  unfold validateTargetDomain at valid ⊢
  rw [again]
  exact valid

/-- Letters, digits, dots and hyphens: nothing that could add to the request a host is written into. -/
def originChar (c : Char) : Bool := c.isAlphanum || c == '.' || c == '-'

/-- Where probes and live checks fetch from. -/
@[ext]
structure Origin where
  host : String
  port : BitVec 16
  named : host.toList ≠ []
  plain : host.toList.all originChar = true
  portSet : port ≠ 0

instance : DecidableEq Origin := fun one two =>
  decidable_of_iff (one.host = two.host ∧ one.port = two.port) Origin.ext_iff.symm

inductive OriginError
  | notHttp
  | noHost
  | badPort
  | extra
  deriving DecidableEq

namespace Origin

/-- `str::rsplit_once`. -/
def rsplitOnce (separator : Char) (text : List Char) : Option (List Char × List Char) :=
  (splitOnce separator text.reverse).map fun parts => (parts.2.reverse, parts.1.reverse)

/-- A port that is not zero. -/
def readPort (text : List Char) : Option { port : BitVec 16 // port ≠ 0 } :=
  (parseUnsigned 65536 text).bind fun n =>
    if portSet : BitVec.ofNat 16 n ≠ 0 then some ⟨_, portSet⟩ else none

theorem http_port_set : (80 : BitVec 16) ≠ 0 := by decide

/-- The host and the port of an origin, which is 80 where none is given. -/
def hostAndPort (rest : List Char) :
    Except OriginError (List Char × { port : BitVec 16 // port ≠ 0 }) :=
  match rsplitOnce ':' rest with
  | some (host, port) => (orError .badPort (readPort port)).map fun port => (host, port)
  | none => .ok (rest, ⟨80, http_port_set⟩)

def http : List Char := "http://".toList

/-- Scheme, host and port, and nothing else. -/
def parse (url : String) : Except OriginError Origin := do
  let rest ← orError .notHttp
    (if http.isPrefixOf url.toList then some (url.toList.drop http.length) else none)
  let rest := if rest.getLast? = some '/' then rest.dropLast else rest
  if rest.any (fun c => ['/', '?', '#', '@'].contains c) then .error .extra
  else
    let (host, port) ← hostAndPort rest
    if named : host = [] then .error .noHost
    else if plain : host.all originChar = true then
      .ok ⟨String.ofList host, port.1, by simpa using named, by simpa using plain, port.2⟩
    else .error .extra

def display (origin : Origin) : String :=
  "http://" ++ origin.host ++ ":" ++ String.ofList (decimal origin.port.toNat)

theorem rsplitOnce_append {separator : Char} (first : List Char) {second : List Char}
    (absent : separator ∉ second) :
    rsplitOnce separator (first ++ separator :: second) = some (first, second) := by
  have text : (first ++ separator :: second).reverse =
      second.reverse ++ separator :: first.reverse := by simp
  rw [rsplitOnce, text, splitOnce_append _ _ _ (by simpa using absent)]
  simp

theorem readPort_decimal {port : BitVec 16} (portSet : port ≠ 0) :
    readPort (decimal port.toNat) = some ⟨port, portSet⟩ := by
  have same : BitVec.ofNat 16 port.toNat = port := by simp
  rw [readPort, parseUnsigned_decimal 65536 port.toNat port.isLt, Option.bind_some]
  simp only [same]
  exact dif_pos portSet

theorem digit_plain {n : Nat} {c : Char} (digit : c ∈ decimal n) :
    c ∉ ['/', '?', '#', '@', ':'] := by
  obtain ⟨value, bound, rfl⟩ := mem_toDigits 10 n (by decide) c digit
  have plain : ∀ value < 10, Nat.digitChar value ∉ ['/', '?', '#', '@', ':'] := by decide
  exact plain value bound

theorem originChar_plain {c : Char} (plain : originChar c = true) :
    c ∉ ['/', '?', '#', '@', ':'] := by
  have apart : ∀ other ∈ ['/', '?', '#', '@', ':'], originChar other = false := by
    simp only [List.forall_mem_cons]
    exact ⟨rfl, rfl, rfl, rfl, rfl, by simp⟩
  intro other
  rw [apart c other] at plain
  cases plain

theorem parse_display (origin : Origin) : parse origin.display = .ok origin := by
  obtain ⟨host, port, named, plain, portSet⟩ := origin
  have text : (display ⟨host, port, named, plain, portSet⟩).toList =
      http ++ (host.toList ++ ':' :: decimal port.toNat) := by
    simp [display, http]
  have clean : ∀ c ∈ host.toList ++ ':' :: decimal port.toNat, c ∉ ['/', '?', '#', '@'] := by
    intro c member
    rcases List.mem_append.mp member with inHost | later
    · have := originChar_plain (List.all_eq_true.mp plain c inHost)
      simp_all
    · rcases List.mem_cons.mp later with rfl | digit
      · decide
      · have := digit_plain digit
        simp_all
  have last : (host.toList ++ ':' :: decimal port.toNat).getLast? ≠ some '/' := by
    intro slash
    exact clean '/' (List.mem_of_getLast? slash) (by decide)
  have none_ : (host.toList ++ ':' :: decimal port.toNat).any
      (fun c => ['/', '?', '#', '@'].contains c) = false := by
    rw [List.any_eq_false]
    intro c member found
    exact clean c member (List.contains_iff_mem.mp found)
  have parts : hostAndPort (host.toList ++ ':' :: decimal port.toNat) =
      .ok (host.toList, ⟨port, portSet⟩) := by
    rw [hostAndPort, rsplitOnce_append _ (fun colon => digit_plain colon (by decide))]
    simp only [readPort_decimal portSet]
    rfl
  rw [parse, text,
    List.drop_left]
  apply bind_ok.mpr
  refine ⟨_, rfl, ?_⟩
  rw [if_neg last, if_neg (Bool.not_eq_true _ ▸ none_)]
  apply bind_ok.mpr
  refine ⟨_, parts, ?_⟩
  dsimp only
  rw [dif_neg named, dif_pos plain]
  simp

end Origin

end DnetEngine
