/-
HrServer.Http.Methods — `StringToHttpMethod` of `sylar/http/http.cc` against
the method that `on_request_method` derives from the buffer.

`CharsToHttpMethod` asks for each name whether the buffer starts with it,
and nothing asks whether the token ends there. The two agree on a token
unless a listed name is a proper prefix of it (`method_recognised_iff`):
no name is a prefix of another one, so the first name found is the token
or makes it up to a part.
-/
import HrServer.Http.ParserTheorems
import HrServer.Http.Query

namespace HrServer

namespace Http

/-- `StringToHttpMethod(m)`: the name that is the C string of `m`. -/
def stringToHttpMethod (m : Bytes) : HttpMethod :=
  match httpMethodMap.find? fun entry => entry.2 == cStr m with
  | some entry => entry.1
  | none => .INVALID_METHOD

/-! ## The names -/

/-- No name is a prefix of another one. -/
theorem httpMethodMap_prefix_free : ∀ entry ∈ httpMethodMap, ∀ other ∈ httpMethodMap,
    entry.2.isPrefixOf other.2 = true → entry = other := by
  decide +kernel

theorem httpMethodMap_valid : ∀ entry ∈ httpMethodMap, entry.1 ≠ .INVALID_METHOD := by
  decide

/-- An upper-case letter or a digit. -/
def isMethodChar (c : UInt8) : Bool := (65 ≤ c && c ≤ 90) || (48 ≤ c && c ≤ 57)

theorem cStr_method {m : Bytes} (hm : ∀ c ∈ m, isMethodChar c = true) : cStr m = m := by
  refine cStr_of_not_mem fun hzero => ?_
  exact absurd (hm 0 hzero) (by decide)

/-! ## The two recognisers -/

variable {m : Bytes}

theorem find?_before_space (m rest : Bytes) :
    (httpMethodMap.find? fun entry => entry.2.isPrefixOf (m ++ 32 :: rest))
      = httpMethodMap.find? fun entry => entry.2.isPrefixOf m := by
  refine List.find?_congr fun entry hentry => ?_
  exact isPrefixOf_before_space (httpMethodMap_no_space entry hentry) m rest

/-- The one name that the token starts with is found. -/
theorem charsToHttpMethod_of_name {entry : HttpMethod × Bytes} (hmem : entry ∈ httpMethodMap)
    (hpre : entry.2 <+: m) (rest : Bytes) : charsToHttpMethod (m ++ 32 :: rest) = entry.1 := by
  rw [charsToHttpMethod, find?_before_space]
  cases hfind : httpMethodMap.find? fun entry => entry.2.isPrefixOf m with
  | none =>
    rw [List.find?_eq_none] at hfind
    exact absurd (List.isPrefixOf_iff_prefix.mpr hpre) (hfind entry hmem)
  | some found =>
    have hfound : found.2 <+: m := by simpa using List.find?_some hfind
    have hfmem := List.mem_of_find?_eq_some hfind
    rcases List.prefix_or_prefix_of_prefix hfound hpre with h | h
    · rw [httpMethodMap_prefix_free _ hfmem _ hmem (List.isPrefixOf_iff_prefix.mpr h)]
    · rw [httpMethodMap_prefix_free _ hmem _ hfmem (List.isPrefixOf_iff_prefix.mpr h)]

theorem charsToHttpMethod_of_none (h : ∀ entry ∈ httpMethodMap, ¬ entry.2 <+: m) (rest : Bytes) :
    charsToHttpMethod (m ++ 32 :: rest) = .INVALID_METHOD := by
  have hfind : httpMethodMap.find? (fun entry => entry.2.isPrefixOf m) = none := by
    rw [List.find?_eq_none]
    intro entry hentry hpre
    exact h entry hentry (List.isPrefixOf_iff_prefix.mp hpre)
  rw [charsToHttpMethod, find?_before_space, hfind]

theorem stringToHttpMethod_of_listed (hm : ∀ c ∈ m, isMethodChar c = true)
    {method : HttpMethod} (hmem : (method, m) ∈ httpMethodMap) :
    stringToHttpMethod m = method := by
  rw [stringToHttpMethod, cStr_method hm]
  cases hfind : httpMethodMap.find? fun entry => entry.2 == m with
  | none =>
    rw [List.find?_eq_none] at hfind
    exact absurd (beq_self_eq_true m) (hfind _ hmem)
  | some found =>
    have hfound : found.2 = m := by simpa using List.find?_some hfind
    have hpre : found.2.isPrefixOf m = true := by
      rw [hfound]
      exact List.isPrefixOf_iff_prefix.mpr (List.prefix_refl m)
    rw [httpMethodMap_prefix_free _ (List.mem_of_find?_eq_some hfind) _ hmem hpre]

theorem stringToHttpMethod_of_unlisted (hm : ∀ c ∈ m, isMethodChar c = true)
    (h : ∀ entry ∈ httpMethodMap, entry.2 ≠ m) : stringToHttpMethod m = .INVALID_METHOD := by
  have hfind : httpMethodMap.find? (fun entry => entry.2 == m) = none := by
    rw [List.find?_eq_none]
    intro entry hentry heq
    exact h entry hentry (by simpa using heq)
  rw [stringToHttpMethod, cStr_method hm, hfind]

/-! ## Recognition of a token -/

/-- The token `m` in front of a space: a listed name gives its method, any other token the
error. -/
structure RecognisedExactly (m rest : Bytes) : Prop where
  derived : charsToHttpMethod (m ++ 32 :: rest) = stringToHttpMethod m
  listed : ∀ method, (method, m) ∈ httpMethodMap →
    ∀ h, onRequestMethod h (m ++ 32 :: rest) = { h with data := { h.data with method := method } }
  rejected : (∀ entry ∈ httpMethodMap, entry.2 ≠ m) →
    ∀ h, onRequestMethod h (m ++ 32 :: rest) = { h with error := 1000 }

theorem recognised_of_listed (hm : ∀ c ∈ m, isMethodChar c = true) {method : HttpMethod}
    (hmem : (method, m) ∈ httpMethodMap) (rest : Bytes) : RecognisedExactly m rest := by
  have hchars {method' : HttpMethod} (hmem' : (method', m) ∈ httpMethodMap) :
      charsToHttpMethod (m ++ 32 :: rest) = method' :=
    charsToHttpMethod_of_name hmem' (List.prefix_refl m) rest
  refine ⟨?_, fun method' hmem' h => ?_, fun hno => absurd rfl (hno _ hmem)⟩
  · rw [hchars hmem, stringToHttpMethod_of_listed hm hmem]
  · rw [onRequestMethod, hchars hmem', if_neg (httpMethodMap_valid _ hmem')]

theorem recognised_of_none (hm : ∀ c ∈ m, isMethodChar c = true)
    (hno : ∀ entry ∈ httpMethodMap, ¬ entry.2 <+: m) (rest : Bytes) : RecognisedExactly m rest := by
  have hchars := charsToHttpMethod_of_none hno rest
  have hunlisted : ∀ entry ∈ httpMethodMap, entry.2 ≠ m := by
    intro entry hmem heq
    exact hno entry hmem (heq ▸ List.prefix_refl _)
  refine ⟨?_, fun method hmem => absurd rfl (hunlisted _ hmem), fun _ h => ?_⟩
  · rw [hchars, stringToHttpMethod_of_unlisted hm hunlisted]
  · rw [onRequestMethod, hchars, if_pos rfl]

/-- A token that goes on behind a listed name gets its method. -/
theorem not_recognised_of_longer {entry : HttpMethod × Bytes} (hmem : entry ∈ httpMethodMap)
    (hpre : entry.2 <+: m) (hne : entry.2 ≠ m) (rest : Bytes) : ¬ RecognisedExactly m rest := by
  intro h
  have hunlisted : ∀ other ∈ httpMethodMap, other.2 ≠ m := by
    rintro other hother rfl
    exact hne (congrArg Prod.snd
      (httpMethodMap_prefix_free _ hmem _ hother (List.isPrefixOf_iff_prefix.mpr hpre)))
  have herror := congrArg HttpRequestParser.error (h.rejected hunlisted (.new false 0))
  rw [onRequestMethod, charsToHttpMethod_of_name hmem hpre,
    if_neg (httpMethodMap_valid _ hmem)] at herror
  cases herror

/-- A token is recognised exactly unless a listed name is a proper prefix of it. -/
theorem method_recognised_iff (hm : ∀ c ∈ m, isMethodChar c = true) (rest : Bytes) :
    RecognisedExactly m rest ↔ ∀ entry ∈ httpMethodMap, ¬ (entry.2 <+: m ∧ entry.2 ≠ m) := by
  constructor
  · intro h entry hmem ⟨hpre, hne⟩
    exact not_recognised_of_longer hmem hpre hne rest h
  · intro hno
    by_cases hlisted : ∃ entry ∈ httpMethodMap, entry.2 = m
    · obtain ⟨⟨method, _⟩, hmem, rfl⟩ := hlisted
      exact recognised_of_listed hm hmem rest
    · refine recognised_of_none hm (fun entry hmem hpre => ?_) rest
      exact hno entry hmem ⟨hpre, fun heq => hlisted ⟨entry, hmem, heq⟩⟩

/-- The token `GET`. -/
theorem method_recognised_iff_get : RecognisedExactly (ascii "GET") [] :=
  (@method_recognised_iff (ascii "GET") (List.all_eq_true.mp (by decide)) []).mpr (by decide)

/-- `GETX` is taken for `GET`. -/
theorem method_getx : ¬ RecognisedExactly (ascii "GETX") [] :=
  @not_recognised_of_longer _ (.GET, ascii "GET") (by decide) (by decide) (by decide) []

end Http

end HrServer
