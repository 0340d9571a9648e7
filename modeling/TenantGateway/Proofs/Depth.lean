import TenantGateway.Proofs.Disclosure
import TenantGateway.Proofs.Utf8

/-! # Depth of JSON texts

Arrays in one another are read as far as there is room for them. A text that opens one more is not
read, whatever follows.
-/
namespace TenantGateway

namespace Text

theorem collect_char (width : Char → Nat) (offset : Nat) (cs : List Char) :
    collect offset (cs.map fun c => .char c (width c)) = .ok cs := by
  induction cs generalizing offset with
  | nil => rfl
  | cons c cs ih =>
    rw [List.map_cons, collect, ih]
    rfl

theorem decode?_encode (surrogates : Bool) (s : String) :
    Encoding.utf8.decode? surrogates 0 (Utf8.encode s) = .ok s.toList := by
  rw [Encoding.decode?, List.drop_zero, Encoding.pieces, Utf8.encode, Utf8.pieces_encode,
    collect_char]
  rfl

end Text

section Plain

variable {r : Response} {s : String} {a b c d : UInt8} {bs : Text.Bytes} (hc : r.contentType = "")
  (hs : Text.Utf8.encode s = a :: b :: c :: d :: bs)
  (he : Text.Encoding.ofJsonSample? [a, b, c, d] = some (.utf8, 0))
include hc hs he

/-- The first characters of a body without a content type tell that it is JSON in UTF-8. -/
theorem Response.plainJson?_of_utf8 :
    plainJson? r.contentType (Text.Utf8.encode s) = some s := by
  have hl : 3 < (Text.Utf8.encode s).length := by
    rw [hs]
    exact Nat.le_add_left 4 bs.length
  have hsample : Text.Encoding.ofJsonSample? (Text.Utf8.encode s) = some (.utf8, 0) := by
    rw [hs]
    exact he
  rw [plainJson?, hc, charset?_empty, if_pos ⟨rfl, hl⟩, hsample]
  simp only [Option.bind_some, Text.decode?_encode, String.ofList_toList]

theorem Response.json_of_utf8 (hb : r.body = .ok (Text.Utf8.encode s)) :
    r.json = (Json.parse s).mapError .ofParse := by
  rw [json, hb]
  simp only [plainJson?_of_utf8 hc hs he]
  rfl

end Plain

namespace Json

theorem parse_ofList {c : Char} (cs : List Char) (hc : c.toNat ≠ 0xFEFF) :
    parse (String.ofList (c :: cs)) = parseChars (c :: cs) := by
  simp only [parse, String.toList_ofList, if_neg hc]

theorem parse_of_value {c : Char} {cs : List Char} {v : Json} (hc : c.toNat ≠ 0xFEFF)
    (hg : isGap c = false)
    (hv : value (2 * (c :: cs).length + 2) depthLimit (c :: cs) = .ok (v, [])) :
    parse (String.ofList (c :: cs)) = .ok v := by
  have hskip : skipGap (c :: cs) = c :: cs := by rw [skipGap, List.dropWhile_cons, hg]; rfl
  rw [parse_ofList cs hc, parseChars, hskip]
  simp only [hv]
  rfl

def isPlain (c : Char) : Bool := c != '"' && c != '\\' && 0x20 ≤ c.toNat

/-- The text of a string, and what follows it. -/
def stringText (s : String) (cs : List Char) : List Char := '"' :: (s.toList ++ '"' :: cs)

theorem string_of_plain {key : List Char} (hk : key.all isPlain = true) (all cs : List Char) :
    string all (key ++ '"' :: cs) = .ok (key, cs) := by
  induction key with
  | nil => rfl
  | cons c key ih =>
    simp only [List.all_cons, isPlain, Bool.and_eq_true, bne_iff_ne, decide_eq_true_eq] at hk
    obtain ⟨⟨⟨hq, he⟩, hc⟩, hk⟩ := hk
    rw [List.cons_append, string, if_neg (by omega), ih hk]
    · rfl
    all_goals grind

section Members

variable {fuel room : Nat} {fields : Fields} {s : String} {inner rest cs : List Char} {v : Json}

theorem value_stringText (hs : s.toList.all isPlain = true) :
    value (fuel + 1) room (stringText s cs) = .ok (.str s, cs) := by
  change (string _ (s.toList ++ '"' :: cs)).map _ = _
  rw [string_of_plain hs]
  simp only [Except.map, String.ofList_toList]

theorem value_object :
    value (fuel + 1) (room + 1) ('\x7b' :: stringText s cs) =
      members fuel room [] (stringText s cs) := rfl

theorem members_stringText (hs : s.toList.all isPlain = true) (hg : skipGap inner = inner)
    (hv : value fuel room inner = .ok (v, rest)) :
    members (fuel + 1) room fields (stringText s (':' :: inner)) =
      match skipGap rest with
      | '\x7d' :: rest => .ok (.obj (put s v fields), rest)
      | ',' :: rest => members fuel room (put s v fields) (skipGap rest)
      | rest => .error (.at .comma rest.length) := by
  change Except.bind (string _ (s.toList ++ '"' :: ':' :: inner)) _ = _
  rw [string_of_plain hs]
  change Except.bind (value fuel room (skipGap inner)) _ = _
  rw [hg, hv]
  have hkey : String.ofList s.toList = s := String.ofList_toList
  simp only [Except.bind, hkey]
  rfl

theorem members_last (hs : s.toList.all isPlain = true) (hg : skipGap inner = inner)
    (hv : value fuel room inner = .ok (v, '\x7d' :: cs)) :
    members (fuel + 1) room fields (stringText s (':' :: inner)) =
      .ok (.obj (put s v fields), cs) :=
  members_stringText hs hg hv

theorem members_more (hs : s.toList.all isPlain = true) (hg : skipGap inner = inner)
    (hv : value fuel room inner = .ok (v, ',' :: rest)) (hr : skipGap rest = rest) :
    members (fuel + 1) room fields (stringText s (':' :: inner)) =
      members fuel room (put s v fields) rest := by
  refine (members_stringText hs hg hv).trans ?_
  exact congrArg _ hr

end Members

/-- Texts with commas between them, and what follows the array that they stand in. -/
def itemsText (s : String) : List String → List Char → List Char
  | [], cs => stringText s (']' :: cs)
  | next :: rest, cs => stringText s (',' :: itemsText next rest cs)

variable (fuel room : Nat)

theorem exists_itemsText_eq (s : String) (names : List String) (cs : List Char) :
    ∃ inner, itemsText s names cs = '"' :: inner := by
  cases names <;> exact ⟨_, rfl⟩

theorem length_itemsText (s : String) (names : List String) (cs : List Char) :
    names.length < (itemsText s names cs).length := by
  induction names generalizing s with
  | nil => simp [itemsText, stringText]
  | cons next rest ih =>
    have hrest := ih next
    simp only [itemsText, stringText, List.length_cons, List.length_append]
    omega

theorem elements_itemsText {s : String} {names : List String} (hs : s.toList.all isPlain = true)
    (hn : ∀ name ∈ names, name.toList.all isPlain = true) (cs : List Char) :
    elements (fuel + (names.length + 2)) room (itemsText s names cs) =
      .ok ((s :: names).map .str, cs) := by
  induction names generalizing s with
  | nil =>
    rw [itemsText, List.length_nil, Nat.zero_add, elements, value_stringText hs]
    rfl
  | cons next rest ih =>
    obtain ⟨inner, hi⟩ := exists_itemsText_eq next rest cs
    have hrest := ih (hn next List.mem_cons_self) fun name hm => hn name (List.mem_cons_of_mem _ hm)
    have hv : value (fuel + (rest.length + 2)) room (stringText s (',' :: '"' :: inner)) =
        .ok (.str s, ',' :: '"' :: inner) := value_stringText hs
    rw [hi] at hrest
    rw [itemsText, hi, List.length_cons, Nat.add_right_comm, ← Nat.add_assoc, elements, hv]
    change Except.bind (elements (fuel + (rest.length + 2)) room ('"' :: inner)) _ = _
    rw [hrest]
    rfl

theorem parse_itemsText {s : String} {names : List String} (hs : s.toList.all isPlain = true)
    (hn : ∀ name ∈ names, name.toList.all isPlain = true) :
    parse (String.ofList ('[' :: itemsText s names [])) = .ok (.arr ((s :: names).map .str)) := by
  obtain ⟨inner, hi⟩ := exists_itemsText_eq s names []
  have hl := length_itemsText s names []
  have he := elements_itemsText (2 * (itemsText s names []).length + 1 - names.length)
    (depthLimit - 1) hs hn []
  rw [show 2 * (itemsText s names []).length + 1 - names.length + (names.length + 2) =
    2 * (itemsText s names []).length + 3 by omega, hi] at he
  have hv : value (2 * (List.length ('[' :: '"' :: inner)) + 2) depthLimit ('[' :: '"' :: inner) =
      .ok (.arr ((s :: names).map .str), []) := by
    change (elements (2 * ('"' :: inner).length + 3) (depthLimit - 1) ('"' :: inner)).map _ = _
    rw [he]
    rfl
  rw [hi]
  exact parse_of_value (by decide) rfl hv

theorem value_array (rest : List Char) :
    value (fuel + 1) (room + 1) ('[' :: '[' :: rest) =
      (elements fuel room ('[' :: rest)).map fun (vs, rest) => (.arr vs, rest) := rfl

theorem value_too_deep (cs : List Char) :
    value (fuel + (2 * room + 1)) room (List.replicate (room + 1) '[' ++ cs) =
      .error (.deep .array) := by
  induction room with
  | zero => rfl
  | succ room ih =>
    obtain ⟨rest, hr⟩ : ∃ rest, List.replicate (room + 1) '[' ++ cs = '[' :: rest := ⟨_, rfl⟩
    rw [hr] at ih
    have hf : fuel + (2 * (room + 1) + 1) = fuel + (2 * room + 1) + 1 + 1 := by omega
    rw [List.replicate_succ, List.cons_append, hr, hf, value_array, elements, ih]
    rfl

/-- A text that opens more arrays than may stand in one another is not read. -/
theorem parse_too_deep (cs : List Char) :
    parse (String.ofList (List.replicate (depthLimit + 1) '[' ++ cs)) =
      .error (.depth .array) := by
  have hgap : ∀ rest, skipGap ('[' :: rest) = '[' :: rest := fun _ => rfl
  have hv := value_too_deep (2 * (depthLimit + 1 + cs.length) + 2 - (2 * depthLimit + 1))
    depthLimit cs
  rw [Nat.sub_add_cancel (by omega)] at hv
  rw [List.replicate_succ, List.cons_append] at hv ⊢
  rw [parse_ofList _ (by decide), parseChars, hgap]
  simp only [List.length_cons, List.length_append, List.length_replicate,
    show depthLimit + cs.length + 1 = depthLimit + 1 + cs.length by omega, hv]

end Json

theorem Response.json_too_deep {r : Response} (cs : List Char) (hc : r.contentType = "")
    (hb : r.body = .ok (Text.Utf8.encode
      (String.ofList (List.replicate (Json.depthLimit + 1) '[' ++ cs)))) :
    r.json = .error (.tooDeep .array) := by
  have hn : Json.depthLimit + 1 = 4 + 987 := rfl
  have hs : Text.Utf8.encode (String.ofList (List.replicate (Json.depthLimit + 1) '[' ++ cs)) =
      0x5B :: 0x5B :: 0x5B :: 0x5B ::
        (List.replicate 987 '[' ++ cs).flatMap Text.Utf8.encodeChar := by
    rw [hn, List.replicate_add, List.append_assoc, Text.Utf8.encode, String.toList_ofList]
    rfl
  rw [json_of_utf8 hc hs rfl hb, Json.parse_too_deep]
  rfl

end TenantGateway
