import ThreatGraph.Proofs.Pager.Token
import ThreatGraph.Proofs.Secrecy.Twins

/-!
# How long a URL gets by its token

A URL that is too long is not sent, and this is all that a token can do to a request.

* `Client.fits_of_size` says that two tokens which take up as many bytes in a form make no
  difference.
* `Client.prepare_of_long_token` says that with a token that takes up more bytes than a URL may have
  no request can be made.
-/

set_option autoImplicit false

namespace ThreatGraph

namespace Form

/-- The number of bytes that a text takes up in a form. -/
def size (s : String) : Nat := (String.ofList (encodeText s)).utf8ByteSize

/-- A text that takes up as many bytes in a form as another. -/
def filler (s : String) : String := String.ofList (List.replicate (size s) 'a')

/-- Letters stand for themselves in a form. -/
theorem encodeText_replicate (n : Nat) :
    encodeText (String.ofList (List.replicate n 'a')) = List.replicate n 'a' := by
  have hplain : encodeChar 'a' = ['a'] := by decide
  rw [encodeText, String.toList_ofList]
  induction n with
  | zero => rfl
  | succ n ih => rw [List.replicate_succ, List.flatMap_cons, ih, hplain, List.singleton_append]

theorem size_replicate (n : Nat) : size (String.ofList (List.replicate n 'a')) = n := by
  rw [size, encodeText_replicate]
  induction n with
  | zero => rfl
  | succ n ih =>
    have hone : (String.ofList ['a']).utf8ByteSize = 1 := by decide
    rw [List.replicate_succ, ← List.singleton_append, String.ofList_append,
      String.utf8ByteSize_append, ih, hone, Nat.add_comm]

/-- The filler of a text takes up as much as the text, and shows nothing else of it. -/
theorem size_filler (s : String) : size (filler s) = size s := size_replicate _

/-- The number of bytes of a pair depends on its key and on the number of bytes of its value. -/
theorem utf8ByteSize_encodePair (pair : String × String) :
    (String.ofList (encodePair pair)).utf8ByteSize =
      size pair.1 + (1 + size pair.2) := by
  have hone : "=".utf8ByteSize = 1 := by decide
  simp [encodePair, size, hone]

/-- Putting the filler for a value leaves the length of a pair as it is. -/
theorem utf8ByteSize_blurPair (keys : List String) (pair : String × String) :
    (String.ofList (encodePair (blurPair keys filler pair))).utf8ByteSize =
      (String.ofList (encodePair pair)).utf8ByteSize := by
  rw [blurPair]
  split
  · rw [utf8ByteSize_encodePair, utf8ByteSize_encodePair, size_filler]
  · rfl

/-- The number of bytes of a form depends on those of its pairs. -/
theorem utf8ByteSize_encode_congr {pairs pairs' : List (String × String)}
    (h : pairs.map (fun pair => (String.ofList (encodePair pair)).utf8ByteSize) =
      pairs'.map fun pair => (String.ofList (encodePair pair)).utf8ByteSize) :
    (String.ofList (encode pairs)).utf8ByteSize = (String.ofList (encode pairs')).utf8ByteSize := by
  induction pairs generalizing pairs' with
  | nil =>
    rw [List.map_nil, eq_comm, List.map_eq_nil_iff] at h
    rw [h]
  | cons pair rest ih =>
    cases pairs' with
    | nil => cases h
    | cons pair' rest' =>
      rw [List.map_cons, List.map_cons, List.cons.injEq] at h
      have hrest := ih h.2
      have hempty : rest = [] ↔ rest' = [] := by
        rw [← List.map_eq_nil_iff, h.2, List.map_eq_nil_iff]
      by_cases hnil : rest = []
      · rw [hnil, hempty.1 hnil]
        exact h.1
      · have hnil' := mt hempty.2 hnil
        rw [encode, encode, List.map_cons, List.map_cons,
          joinSep_cons _ (by simpa using hnil), joinSep_cons _ (by simpa using hnil')]
        rw [encode, encode] at hrest
        simp [h.1, hrest]

/-- Pairs that agree but for values of the same length make forms of the same length. -/
theorem utf8ByteSize_encode_of_blur {keys : List String} {pairs pairs' : List (String × String)}
    (h : pairs.map (blurPair keys filler) = pairs'.map (blurPair keys filler)) :
    (String.ofList (encode pairs)).utf8ByteSize = (String.ofList (encode pairs')).utf8ByteSize := by
  have hsizes := congrArg
    (List.map fun pair => (String.ofList (encodePair pair)).utf8ByteSize) h
  simp only [List.map_map, Function.comp_def, utf8ByteSize_blurPair] at hsizes
  exact utf8ByteSize_encode_congr hsizes

/-- A form is longer than the value of each of its pairs. -/
theorem size_le_encode {pairs : List (String × String)} {pair : String × String}
    (h : pair ∈ pairs) : size pair.2 ≤ (String.ofList (encode pairs)).utf8ByteSize := by
  induction pairs with
  | nil => cases h
  | cons head rest ih =>
    have hhead : size head.2 ≤ (String.ofList (encodePair head)).utf8ByteSize := by
      rw [utf8ByteSize_encodePair]
      omega
    by_cases hnil : rest = []
    · subst hnil
      rw [List.mem_singleton.1 h]
      exact hhead
    · rw [encode, List.map_cons, joinSep_cons _ (by simpa using hnil)]
      rcases List.mem_cons.1 h with rfl | hmem
      · rw [String.ofList_append, String.utf8ByteSize_append]
        exact Nat.le_add_right_of_le hhead
      · have hrest := ih hmem
        rw [encode] at hrest
        simp only [String.ofList_append, String.utf8ByteSize_append, String.ofList_cons]
        omega

end Form

/-! ## URLs

The query is the only part of a URL that a token can be in, and so the only one whose length depends
on it. -/

namespace Url

/-- The number of bytes of a URL is that of its query and of what is apart from it. -/
theorem utf8ByteSize_fullText (u : Url) : u.withoutUser.fullText.utf8ByteSize =
    ({ u with query := none } : Url).withoutUser.fullText.utf8ByteSize
      + u.queryText.utf8ByteSize := by
  have hquery : u.withoutUser.queryText = u.queryText := rfl
  have hbase : ({ u with query := none } : Url).withoutUser.base = u.withoutUser.base := rfl
  have hnone : ({ u with query := none } : Url).withoutUser.queryText = "" := rfl
  have hfragment : ({ u with query := none } : Url).withoutUser.fragment = u.withoutUser.fragment :=
    rfl
  rw [fullText, fullText, text, text, hquery, hbase, hnone, hfragment]
  simp only [String.utf8ByteSize_append, String.append_empty]
  omega

/-- Forms of the same length make URLs of the same length. -/
theorem utf8ByteSize_appendPairs_congr {pairs pairs' : List (String × String)}
    (h : (String.ofList (Form.encode pairs)).utf8ByteSize =
      (String.ofList (Form.encode pairs')).utf8ByteSize) (u : Url) :
    (u.appendPairs pairs).withoutUser.fullText.utf8ByteSize =
      (u.appendPairs pairs').withoutUser.fullText.utf8ByteSize := by
  have hempty : String.ofList (Form.encode pairs) = "" ↔
      String.ofList (Form.encode pairs') = "" := by
    rw [← String.utf8ByteSize_eq_zero_iff, h, String.utf8ByteSize_eq_zero_iff]
  have hquery : (u.appendPairs pairs).queryText.utf8ByteSize =
      (u.appendPairs pairs').queryText.utf8ByteSize := by
    simp only [queryText, appendPairs]
    by_cases hform : String.ofList (Form.encode pairs) = ""
    · rw [if_pos hform, if_pos hform, if_pos (hempty.1 hform), if_pos (hempty.1 hform)]
    · rw [if_neg hform, if_neg hform, if_neg (mt hempty.2 hform), if_neg (mt hempty.2 hform)]
      by_cases hbefore : u.query.getD "" = ""
      · simp only [if_pos hbefore, String.utf8ByteSize_append, h]
      · simp only [if_neg hbefore, String.utf8ByteSize_append, h]
  rw [utf8ByteSize_fullText, utf8ByteSize_fullText (u.appendPairs pairs'), hquery]
  rfl

/-- A URL is no shorter than the form that is added to it. -/
theorem utf8ByteSize_encode_le (u : Url) (pairs : List (String × String)) :
    (String.ofList (Form.encode pairs)).utf8ByteSize ≤
      (u.appendPairs pairs).withoutUser.fullText.utf8ByteSize := by
  have hquery : (String.ofList (Form.encode pairs)).utf8ByteSize ≤
      (u.appendPairs pairs).queryText.utf8ByteSize := by
    simp only [queryText, appendPairs]
    by_cases hform : String.ofList (Form.encode pairs) = ""
    · rw [hform]
      exact Nat.zero_le _
    · rw [if_neg hform, if_neg hform]
      by_cases hbefore : u.query.getD "" = ""
      · simp only [if_pos hbefore, String.utf8ByteSize_append]
        exact Nat.le_add_left _ _
      · simp only [if_neg hbefore, String.utf8ByteSize_append]
        omega
  rw [utf8ByteSize_fullText]
  omega

end Url

/-! ## Requests

Whether a request can be sent depends on the length of its URL and on nothing else about the token.
So two tokens of the same length are alike here, and one that is longer than any URL may be rules
out all requests. -/

namespace Client

variable {c c' : Client} {r r' : Request}

/-- Requests that agree but for values of the same length have URLs of the same length. -/
theorem fits_of_blur (h : c.Twins c') {keys : List String} (hkeys : tokenParam ∈ keys)
    (hsize : Form.size c.credentials.accessToken = Form.size c'.credentials.accessToken)
    (hr : r.Alike keys Form.filler r') : c.fits r = c'.fits r' := by
  have hresolve : c.resolve r.endpoint = c'.resolve r'.endpoint := by
    rw [resolve, resolve, h.config_eq, hr.endpoint_eq]
  have htoken : Form.filler c.credentials.accessToken = Form.filler c'.credentials.accessToken := by
    rw [Form.filler, Form.filler, hsize]
  have hlength := Form.utf8ByteSize_encode_of_blur (blur_queryPairs hkeys htoken hr)
  simp only [fits, urlSize?, ← hresolve, Url.utf8ByteSize_appendPairs_congr hlength]

/-- **Tokens of the same length** make no difference to the length of a URL. -/
theorem fits_of_size (h : c.Twins c')
    (hsize : Form.size c.credentials.accessToken = Form.size c'.credentials.accessToken)
    (r : Request) : c.fits r = c'.fits r :=
  fits_of_blur h (List.mem_singleton.2 rfl) hsize (.refl _ _ r)

/-- The same for the request that shows what is known of the token. -/
theorem fits_debugRequest_of_size (h : c.Twins c')
    (hsize : Form.size c.credentials.accessToken = Form.size c'.credentials.accessToken) :
    c.fits c.debugRequest = c'.fits c'.debugRequest := by
  have htoken : Form.filler c.credentials.accessToken = Form.filler c'.credentials.accessToken := by
    rw [Form.filler, Form.filler, hsize]
  have hkeys : tokenParam ∈ [tokenParam, inputTokenParam] := by simp
  refine fits_of_blur h hkeys hsize ⟨rfl, rfl, ?_, rfl⟩
  rw [debugRequest, debugRequest, Params.insertText, Params.insertText, Params.blur_insert,
    Params.blur_insert, ParamValue.blur, ParamValue.blur, if_pos (by simp), if_pos (by simp),
    ParamValue.map, ParamValue.map, htoken]

/-- **A token that is too long.**  No request can be made with it. -/
theorem prepare_of_long_token
    (h : Url.greatestLength < Form.size c.credentials.accessToken) (r : Request) :
    c.prepare r = .error (.transport ⟨.request, none⟩) := by
  have hlocate : locate? (c.resolve r.endpoint) (c.queryPairs r) = none := by
    rw [locate?]
    cases Url.parse (c.resolve r.endpoint) with
    | error fault => rfl
    | ok url =>
      have hform := Form.size_le_encode (c.mem_queryPairs r)
      dsimp only at hform
      have hurl := url.utf8ByteSize_encode_le (c.queryPairs r)
      have hlong : (url.appendPairs (c.queryPairs r)).isSendable = false := by
        rw [Url.isSendable, decide_eq_false (by omega), Bool.and_false]
      simp [hlong]
  delta prepare
  rw [hlocate]
  rfl

end Client

end ThreatGraph
