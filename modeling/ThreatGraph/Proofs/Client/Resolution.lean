import ThreatGraph.Client
import ThreatGraph.Proofs.Text.Lowercase

/-!
# Where an endpoint is found

An endpoint that is the address of a web page is found there.  Any other is found below the version
of the service, and where the three parts meet the number of slashes does not count.

* `StripsTo` and `TrimsTo` say what is left of a text without the slashes at its start or at its
  end.
* `SlashesApart` relates texts that differ in such slashes only, and `Client.MeetAlike` the parts of
  two addresses that differ only in the slashes where parts meet.
* `Client.address_of_stripsTo` is the address of an endpoint below the service, and
  `Client.MeetAlike.address_eq` says that the slashes do not count.
* `Client.isWebAddress_address` says of which services all endpoints have web addresses, so that
  resolving them again changes nothing.  `Client.address_joins_parts` puts all of it together.
-/

set_option autoImplicit false

namespace ThreatGraph

/-! ## Slashes at the ends of a text

What is dropped at an end of a text are slashes, and all of them.  A text is therefore described by
what is left of it, and two texts that differ in such slashes have the same left. -/

/-- A number of slashes. -/
def slashes (n : Nat) : String := String.ofList (List.replicate n '/')

/-- A text without the slashes at its start. -/
def StripsTo (s core : String) : Prop :=
  (∃ n, s = slashes n ++ core) ∧ core.toList.head? ≠ some '/'

/-- A text without the slashes at its end. -/
def TrimsTo (s core : String) : Prop :=
  (∃ n, s = core ++ slashes n) ∧ core.toList.getLast? ≠ some '/'

/-- Which ends of a text may have slashes more or less. -/
inductive Ends where
  | start
  | finish
  | both
  deriving DecidableEq, Repr

/-- Two texts that differ only in the number of slashes at some of their ends. -/
inductive SlashesApart : Ends → String → String → Prop where
  | start (m n : Nat) (core : String) :
      SlashesApart .start (slashes m ++ core) (slashes n ++ core)
  | finish (m n : Nat) (core : String) :
      SlashesApart .finish (core ++ slashes m) (core ++ slashes n)
  | both (m n k l : Nat) (core : String) :
      SlashesApart .both (slashes m ++ core ++ slashes k) (slashes n ++ core ++ slashes l)

@[simp] theorem toList_slashes (n : Nat) : (slashes n).toList = List.replicate n '/' :=
  String.toList_ofList

theorem dropLeading_slashes (n : Nat) (cs : List Char) :
    dropLeading '/' (List.replicate n '/' ++ cs) = dropLeading '/' cs :=
  List.dropWhile_append_of_pos fun _ hc => decide_eq_true (List.eq_of_mem_replicate hc)

theorem dropTrailing_slashes (n : Nat) (cs : List Char) :
    dropTrailing '/' (cs ++ List.replicate n '/') = dropTrailing '/' cs := by
  rw [dropTrailing, dropTrailing, List.reverse_append, List.reverse_replicate,
    List.dropWhile_append_of_pos fun _ hc => decide_eq_true (List.eq_of_mem_replicate hc)]

/-- Slashes at both ends are dropped, also if there is nothing between them. -/
theorem dropTrailing_dropLeading_slashes (m k : Nat) (cs : List Char) :
    dropTrailing '/' (dropLeading '/' (List.replicate m '/' ++ cs ++ List.replicate k '/')) =
      dropTrailing '/' (dropLeading '/' cs) := by
  rw [List.append_assoc, dropLeading_slashes]
  have happend : dropLeading '/' (cs ++ List.replicate k '/') =
      if (dropLeading '/' cs).isEmpty then dropLeading '/' (List.replicate k '/')
      else dropLeading '/' cs ++ List.replicate k '/' := List.dropWhile_append
  rw [happend]
  split
  · next hempty =>
    have hslashes := dropLeading_slashes k []
    rw [List.append_nil] at hslashes
    rw [hslashes, List.isEmpty_iff.1 hempty]
    rfl
  · exact dropTrailing_slashes k _

/-- What is dropped at the start of a text is slashes, and no slash is left there. -/
theorem dropLeading_spec (cs : List Char) :
    (∃ n, cs = List.replicate n '/' ++ dropLeading '/' cs) ∧
      (dropLeading '/' cs).head? ≠ some '/' := by
  induction cs with
  | nil => exact ⟨⟨0, rfl⟩, by simp [dropLeading]⟩
  | cons c cs ih =>
    by_cases hc : c = '/'
    · subst hc
      obtain ⟨⟨n, hn⟩, hhead⟩ := ih
      have hdrop : dropLeading '/' ('/' :: cs) = dropLeading '/' cs := rfl
      rw [hdrop]
      exact ⟨⟨n + 1, by rw [List.replicate_succ, List.cons_append, ← hn]⟩, hhead⟩
    · have hdrop : dropLeading '/' (c :: cs) = c :: cs :=
        List.dropWhile_cons_of_neg (by simpa using hc)
      rw [hdrop]
      exact ⟨⟨0, rfl⟩, by simpa using hc⟩

/-- Nothing is dropped from a text that begins with no slash. -/
theorem dropLeading_of_head? {cs : List Char} (h : cs.head? ≠ some '/') :
    dropLeading '/' cs = cs := by
  cases cs with
  | nil => rfl
  | cons c cs => exact List.dropWhile_cons_of_neg (by simpa using h)

/-- Nothing is dropped from a text that ends with no slash. -/
theorem dropTrailing_of_getLast? {cs : List Char} (h : cs.getLast? ≠ some '/') :
    dropTrailing '/' cs = cs := by
  rw [List.getLast?_eq_head?_reverse] at h
  have hreverse := dropLeading_of_head? h
  rw [dropLeading] at hreverse
  rw [dropTrailing, hreverse, List.reverse_reverse]

/-- Every text has one text that is left of it without the slashes at its start. -/
theorem stripsTo_iff {s core : String} :
    StripsTo s core ↔ core.toList = dropLeading '/' s.toList := by
  constructor
  · rintro ⟨⟨n, rfl⟩, hcore⟩
    rw [String.toList_append, toList_slashes, dropLeading_slashes, dropLeading_of_head? hcore]
  · intro hcore
    obtain ⟨⟨n, hn⟩, hhead⟩ := dropLeading_spec s.toList
    rw [← hcore] at hn hhead
    refine ⟨⟨n, String.toList_inj.1 ?_⟩, hhead⟩
    rw [String.toList_append, toList_slashes]
    exact hn

/-- What is left of a text at its end is what the program leaves of it. -/
theorem TrimsTo.dropTrailing_eq {s core : String} (h : TrimsTo s core) :
    dropTrailing '/' s.toList = core.toList := by
  obtain ⟨⟨n, rfl⟩, hcore⟩ := h
  rw [String.toList_append, toList_slashes, dropTrailing_slashes, dropTrailing_of_getLast? hcore]

/-- Texts that differ in the slashes at their start are the same without these. -/
theorem SlashesApart.stripsTo {s t core : String} (h : SlashesApart .start s t)
    (hs : StripsTo s core) : StripsTo t core := by
  cases h with
  | start m n rest =>
    rw [stripsTo_iff, String.toList_append, toList_slashes, dropLeading_slashes] at hs ⊢
    exact hs

/-! ## Web addresses

Whether an endpoint is a web address is seen from its first characters alone.  So an address below a
web address is one again, and that is why resolving it once more changes nothing. -/

/-- A text that begins like the address of a web page. -/
def IsWebAddress (s : String) : Prop := ∃ rest, s = "http://" ++ rest ∨ s = "https://" ++ rest

theorem IsWebAddress.append {s : String} (h : IsWebAddress s) (t : String) :
    IsWebAddress (s ++ t) := by
  obtain ⟨rest, rfl | rfl⟩ := h
  · exact ⟨rest ++ t, .inl (String.append_assoc ..)⟩
  · exact ⟨rest ++ t, .inr (String.append_assoc ..)⟩

/-- A web address begins with no slash. -/
theorem IsWebAddress.head?_ne {s : String} (h : IsWebAddress s) : s.toList.head? ≠ some '/' := by
  obtain ⟨rest, rfl | rfl⟩ := h <;> simp

/-- A text that is no web address without its slashes is none with them. -/
theorem StripsTo.not_isWebAddress {s core : String} (h : StripsTo s core)
    (hcore : ¬ IsWebAddress core) : ¬ IsWebAddress s := by
  intro hweb
  have hsame : s = core := by
    rw [← String.toList_inj, stripsTo_iff.1 h, dropLeading_of_head? hweb.head?_ne]
  exact hcore (hsame ▸ hweb)

namespace Client

/-- The client takes for absolute what is a web address. -/
theorem isAbsolute_iff {endpoint : String} :
    isAbsolute endpoint = true ↔ IsWebAddress endpoint := by
  have hstart : ∀ start : String, start.toList <+: endpoint.toList ↔
      ∃ rest, endpoint = start ++ rest := by
    intro start
    constructor
    · rintro ⟨rest, hrest⟩
      exact ⟨String.ofList rest, by rw [← String.toList_inj, ← hrest]; simp⟩
    · rintro ⟨rest, rfl⟩
      exact ⟨rest.toList, by simp⟩
  rw [isAbsolute, Bool.or_eq_true, isSome_afterStart?_iff, isSome_afterStart?_iff, hstart, hstart,
    IsWebAddress, exists_or]

/-! ## Resolving an endpoint

The parts are joined with one slash between each two of them, after the slashes at the joints are
dropped.  The slashes at the other ends stay: those at the start of the base and at the end of the
endpoint belong to the parts. -/

variable {base version endpoint base' version' endpoint' core : String}

/-- An endpoint that is a web address is its own. -/
theorem address_of_isWebAddress (h : IsWebAddress endpoint) :
    address base version endpoint = endpoint := by
  rw [address, if_pos (isAbsolute_iff.2 h)]

/-- The address of a version is the base without the slashes at its end, one slash, and the version
without the slashes at its ends. -/
theorem versionAddress_eq {stripped trimmed : String} (hbase : TrimsTo base core)
    (hstrip : StripsTo version stripped) (htrim : TrimsTo stripped trimmed) :
    versionAddress base version = core ++ "/" ++ trimmed := by
  rw [versionAddress, hbase.dropTrailing_eq, ← stripsTo_iff.1 hstrip, htrim.dropTrailing_eq,
    String.ofList_toList, String.ofList_toList]

/-- Any other endpoint stands below the service, after one slash. -/
theorem address_of_stripsTo (h : StripsTo endpoint core) (hcore : ¬ IsWebAddress core) :
    address base version endpoint = versionAddress base version ++ "/" ++ core := by
  have hrelative : ¬ isAbsolute endpoint = true := fun habsolute =>
    h.not_isWebAddress hcore (isAbsolute_iff.1 habsolute)
  rw [address, if_neg hrelative, ← stripsTo_iff.1 h, String.ofList_toList]

/-- The parts of two addresses that differ only in the slashes where the parts meet. -/
structure MeetAlike (base version endpoint base' version' endpoint' : String) : Prop where
  base : SlashesApart .finish base base'
  version : SlashesApart .both version version'
  endpoint : SlashesApart .start endpoint endpoint'

/-- Slashes at the end of the base and at the ends of the version do not count. -/
theorem versionAddress_congr (hbase : SlashesApart .finish base base')
    (hversion : SlashesApart .both version version') :
    versionAddress base' version' = versionAddress base version := by
  cases hbase with
  | finish m n b =>
    cases hversion with
    | both p q k l v =>
      simp only [versionAddress, String.toList_append, toList_slashes, dropTrailing_slashes,
        dropTrailing_dropLeading_slashes]

/-- Slashes where the parts of an address meet do not count. -/
theorem MeetAlike.address_eq (h : MeetAlike base version endpoint base' version' endpoint')
    (hcore : StripsTo endpoint core) (hweb : ¬ IsWebAddress core) :
    address base' version' endpoint' = address base version endpoint := by
  rw [address_of_stripsTo hcore hweb, address_of_stripsTo (h.endpoint.stripsTo hcore) hweb,
    versionAddress_congr h.base h.version]

/-- Below a web address there are web addresses only. -/
theorem isWebAddress_address (h : TrimsTo base core) (hcore : IsWebAddress core)
    (version endpoint : String) : IsWebAddress (address base version endpoint) := by
  by_cases hendpoint : isAbsolute endpoint = true
  · rw [address, if_pos hendpoint]
    exact isAbsolute_iff.1 hendpoint
  · rw [address, if_neg hendpoint, versionAddress, h.dropTrailing_eq, String.ofList_toList]
    exact (((hcore.append _).append _).append _).append _

/-- **Slashes do not count, and resolving once is enough.**  For every base, version and endpoint:
* an endpoint that is a web address is found there;
* any other is found below the version of the service, after one slash and without the slashes at
  its start, unless a web address is left of it without these; and slashes more or less at the end
  of the base, at the ends of the version or at the start of the endpoint change nothing;
* if the base is a web address without the slashes at its end, then every endpoint has an address
  that is found where it says. -/
theorem address_joins_parts (base version endpoint : String) :
    (IsWebAddress endpoint → address base version endpoint = endpoint) ∧
    (∀ core, StripsTo endpoint core → ¬ IsWebAddress core →
      address base version endpoint = versionAddress base version ++ "/" ++ core ∧
      ∀ base' version' endpoint', MeetAlike base version endpoint base' version' endpoint' →
        address base' version' endpoint' = address base version endpoint) ∧
    (∀ core, TrimsTo base core → IsWebAddress core →
      address base version (address base version endpoint) = address base version endpoint) :=
  ⟨address_of_isWebAddress,
    fun _ hcore hweb => ⟨address_of_stripsTo hcore hweb, fun _ _ _ h => h.address_eq hcore hweb⟩,
    fun _ hbase hweb => address_of_isWebAddress (isWebAddress_address hbase hweb version endpoint)⟩

/-- A base that is nothing but a scheme loses it with its slashes, and addresses below it are
resolved again and again. -/
example : address "http://" "v" "p" = "http:/v/p" ∧
    address "http://" "v" (address "http://" "v" "p") = "http:/v/http:/v/p" := by decide +kernel

end Client

end ThreatGraph
