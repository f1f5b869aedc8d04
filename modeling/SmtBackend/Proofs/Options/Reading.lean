import SmtBackend.Options

/-!
# Reading option text

Extra options arrive as text `key=value;key=value`. Reading splits the text
at every `;`, trims each part and skips the blank ones; each remaining item
must hold an `=` with something other than blanks before the first one, and
then names the trimmed text before its first `=` as key and the trimmed
text after it as value. The options read keep every key where it first
occurs, with the value it last takes.

`option_text_reads` says what reading does to every text: it succeeds
exactly when every item names an option; the keys read are the items' keys,
each once, in order of first occurrence, and each with the value of its
last item; a failure is that of the first item naming no option; the
environment's options are its text read, an unset variable counting as
empty text; and options whose keys and values are plain text read back
from the text they are written as.
-/

namespace SmtBackend.Options

open SmtBackend.Text

/-! ## Items -/

/-- The items of option text: its `;`-separated parts, trimmed, without the
blank ones. -/
def items (text : String) : List String :=
  ((splitAt ';' text).map trim).filter (!·.isEmpty)

/-- The key an item names: the trimmed text before its first `=`. -/
def itemKey (item : String) : String :=
  trim (String.ofList (item.toList.takeWhile (· != '=')))

/-- The value an item names: the trimmed text after its first `=`. -/
def itemValue (item : String) : String :=
  trim (String.ofList (item.toList.dropWhile (· != '=')).tail)

/-- The option an item names. -/
def itemPair (item : String) : String × String := (itemKey item, itemValue item)

/-- Why an item names no option: it lacks an `=`, or its key is blank. -/
def malformed (item : String) : Option Failure :=
  if '=' ∉ item.toList then some (.config s!"Malformed option '{item}', expected key=value")
  else if itemKey item = "" then some (.config s!"Malformed option '{item}', empty option name")
  else none

theorem malformed_eq_none_iff {item : String} :
    malformed item = none ↔ '=' ∈ item.toList ∧ itemKey item ≠ "" := by
  unfold malformed
  by_cases h₁ : '=' ∈ item.toList <;> by_cases h₂ : itemKey item = "" <;> simp [h₁, h₂]

theorem eq_takeWhile_append_cons {c : Char} {l : List Char} (h : c ∈ l) :
    l = l.takeWhile (· != c) ++ c :: (l.dropWhile (· != c)).tail := by
  induction l with
  | nil => cases h
  | cons d l ih =>
    by_cases hd : d = c
    · subst hd
      simp
    · have hl : c ∈ l := by simpa [Ne.symm hd] using h
      simpa [hd] using ih hl

theorem not_mem_takeWhile_ne (c : Char) (l : List Char) : c ∉ l.takeWhile (· != c) :=
  fun hm => by simpa using List.all_eq_true.mp List.all_takeWhile _ hm

theorem addItem_eq (pairs : List (String × String)) (item : String) :
    addItem pairs item = match malformed item with
      | some e => .error e
      | none => .ok (setKey pairs (itemKey item) (itemValue item)) := by
  unfold addItem malformed
  by_cases h : '=' ∈ item.toList
  · -- the text before the first `=` is the key, the rest joined again the value
    have hsplit : item.toList.splitOn '=' = item.toList.takeWhile (· != '=') ::
        (item.toList.dropWhile (· != '=')).tail.splitOn '=' :=
      (congrArg (List.splitOn '=') (eq_takeWhile_append_cons h)).trans
        (List.splitOn_append_cons_self_of_not_mem (not_mem_takeWhile_ne _ _) _)
    obtain ⟨r, rs, hr⟩ :=
      List.exists_cons_of_ne_nil (List.splitOn_ne_nil '=' (item.toList.dropWhile (· != '=')).tail)
    have hvalue : ['='].intercalate (r :: rs) = (item.toList.dropWhile (· != '=')).tail := by
      rw [← hr, List.intercalate_splitOn]
    have hkey : trim (String.ofList (item.toList.takeWhile (· != '='))) = itemKey item := rfl
    rw [hsplit, hr]
    by_cases hk : itemKey item = ""
    · simp [h, hk, hkey, String.isEmpty_iff]
    · simp [h, hk, hkey, String.isEmpty_iff, hvalue, itemValue]
  · rw [List.splitOn_eq_singleton h]
    simp [h]

/-! ## Reading item by item -/

theorem parseOptionString_eq_foldlM_items (text : String) :
    parseOptionString text = (items text).foldlM addItem [] := by
  unfold parseOptionString items
  generalize splitAt ';' text = raws
  generalize ([] : List (String × String)) = init
  induction raws generalizing init with
  | nil => simp only [List.foldlM_nil, List.map_nil, List.filter_nil]
  | cons raw raws ih =>
    rw [List.foldlM_cons, List.map_cons, List.filter_cons]
    cases h : (trim raw).isEmpty with
    | true =>
      simp only [h, if_true, Bool.not_true, Bool.false_eq_true, if_false, bind, Except.bind]
      exact ih init
    | false =>
      simp only [h, Bool.not_false, if_true, Bool.false_eq_true, if_false, List.foldlM_cons]
      exact congrArg (addItem init (trim raw) >>= ·) (funext ih)

section Reading

variable {init out : List (String × String)} {e : Failure}

theorem foldlM_addItem_eq_ok {its : List String} :
    its.foldlM addItem init = .ok out ↔
      (∀ item ∈ its, malformed item = none) ∧
        out = (its.map itemPair).foldl (fun o p => setKey o p.1 p.2) init := by
  induction its generalizing init with
  | nil => simp [pure, Except.pure, eq_comm]
  | cons item its ih =>
    rw [List.foldlM_cons, addItem_eq]
    cases h : malformed item with
    | some e => simp [h, bind, Except.bind]
    | none => simp [h, ih, itemPair, bind, Except.bind]

theorem foldlM_addItem_eq_error {its : List String} :
    its.foldlM addItem init = .error e ↔
      ∃ pre bad post, its = pre ++ bad :: post ∧ (∀ item ∈ pre, malformed item = none) ∧
        malformed bad = some e := by
  induction its generalizing init with
  | nil => simp [pure, Except.pure]
  | cons item its ih =>
    rw [List.foldlM_cons, addItem_eq]
    cases h : malformed item with
    | some e' =>
      -- the first item names no option, and its failure is the answer
      simp only [bind, Except.bind, Except.error.injEq]
      constructor
      · rintro rfl
        exact ⟨[], item, its, rfl, by simp, h⟩
      · rintro ⟨pre, bad, post, hits, hpre, hbad⟩
        cases pre with
        | nil =>
          simp only [List.nil_append, List.cons.injEq] at hits
          rw [← hits.1, h] at hbad
          exact Option.some.inj hbad
        | cons p pre =>
          simp only [List.cons_append, List.cons.injEq] at hits
          rw [hpre item (hits.1 ▸ List.mem_cons_self)] at h
          cases h
    | none =>
      -- the first item is read, and the failure is one of the rest
      simp only [bind, Except.bind]
      rw [ih]
      constructor
      · rintro ⟨pre, bad, post, rfl, hpre, hbad⟩
        refine ⟨item :: pre, bad, post, rfl, fun i hi => ?_, hbad⟩
        rcases List.mem_cons.mp hi with rfl | hi
        · exact h
        · exact hpre i hi
      · rintro ⟨pre, bad, post, hits, hpre, hbad⟩
        cases pre with
        | nil =>
          simp only [List.nil_append, List.cons.injEq] at hits
          rw [← hits.1, h] at hbad
          cases hbad
        | cons p pre =>
          simp only [List.cons_append, List.cons.injEq] at hits
          obtain ⟨rfl, rfl⟩ := hits
          exact ⟨pre, bad, post, rfl, fun i hi => hpre i (List.mem_cons_of_mem _ hi), hbad⟩

end Reading

/-! ## Setting keys -/

theorem keys_setKey (pairs : List (String × String)) (key value : String) :
    (setKey pairs key value).map (·.1) =
      if key ∈ pairs.map (·.1) then pairs.map (·.1) else pairs.map (·.1) ++ [key] := by
  unfold setKey
  split
  · rename_i hany
    have hmem : key ∈ pairs.map (·.1) := by simpa using hany
    rw [if_pos hmem, List.map_map]
    congr 1
    funext p
    by_cases hp : p.1 = key <;> simp [hp]
  · rename_i hany
    have hmem : key ∉ pairs.map (·.1) := by simpa using hany
    simp [hmem]

theorem lookup_map_replace (pairs : List (String × String)) (key value k : String) :
    (pairs.map fun p => if p.1 == key then (key, value) else p).lookup k =
      if k = key ∧ key ∈ pairs.map (·.1) then some value else pairs.lookup k := by
  induction pairs with
  | nil => simp
  | cons p pairs ih =>
    obtain ⟨a, b⟩ := p
    simp only [beq_iff_eq] at ih ⊢
    by_cases hk : k = a
    · subst hk
      by_cases ha : k = key <;> simp [ha]
    · have hka : (k == a) = false := beq_eq_false_iff_ne.mpr hk
      by_cases ha : a = key
      · subst ha
        simp [List.lookup_cons, hka, hk, ih]
      · simp only [List.map_cons, List.lookup_cons, hka, ha, if_false, ih, List.mem_cons,
          Ne.symm ha, false_or]

theorem lookup_setKey (pairs : List (String × String)) (key value k : String) :
    (setKey pairs key value).lookup k = if k = key then some value else pairs.lookup k := by
  unfold setKey
  split
  · rename_i hany
    have hmem : key ∈ pairs.map (·.1) := by simpa using hany
    rw [lookup_map_replace]
    by_cases hk : k = key <;> simp [hk, hmem]
  · rename_i hany
    rw [List.lookup_append]
    by_cases hk : k = key
    · subst hk
      have hnone : pairs.lookup k = none := by
        rw [List.lookup_eq_none_iff]
        intro p hp
        have hpk : p.1 ≠ k := fun h => hany (List.any_eq_true.mpr ⟨p, hp, by simp [h]⟩)
        exact bne_iff_ne.mpr (Ne.symm hpk)
      simp [hnone]
    · simp [hk]

theorem keys_foldl_setKey (es : List (String × String)) :
    (es.foldl (fun o p => setKey o p.1 p.2) []).map (·.1) = (es.map (·.1)).eraseDups := by
  -- the options are set in order, so go through them from the last one back
  rw [← List.reverse_reverse es]
  generalize es.reverse = rs
  induction rs with
  | nil => rfl
  | cons p rs ih =>
    rw [List.reverse_cons, List.foldl_append, List.foldl_cons, List.foldl_nil, keys_setKey, ih,
      List.map_append, List.eraseDups_append]
    simp only [List.mem_eraseDups, List.map_reverse, List.removeAll, List.map_cons, List.map_nil]
    by_cases hp : p.1 ∈ (rs.map (·.1)).reverse
    · simp [hp]
    · simp [hp, List.eraseDups_cons]

theorem lookup_foldl_setKey (es init : List (String × String)) (k : String) :
    (es.foldl (fun o p => setKey o p.1 p.2) init).lookup k = (es.reverse ++ init).lookup k := by
  induction es generalizing init with
  | nil => rfl
  | cons p es ih =>
    rw [List.foldl_cons, ih, List.reverse_cons, List.append_assoc, List.lookup_append,
      List.lookup_append, lookup_setKey]
    obtain ⟨a, b⟩ := p
    by_cases hk : k = a
    · simp [hk]
    · simp [hk, List.lookup_cons, beq_eq_false_iff_ne.mpr hk]

theorem foldl_setKey_of_nodup (es init : List (String × String))
    (h : (init.map (·.1) ++ es.map (·.1)).Nodup) :
    es.foldl (fun o p => setKey o p.1 p.2) init = init ++ es := by
  induction es generalizing init with
  | nil => simp
  | cons p es ih =>
    have hfresh : p.1 ∉ init.map (·.1) := fun hp =>
      (List.nodup_append.mp h).2.2 _ hp _ List.mem_cons_self rfl
    have hset : setKey init p.1 p.2 = init ++ [p] := by
      unfold setKey
      rw [if_neg (by simpa using hfresh)]
    rw [List.foldl_cons, hset, ih, List.append_assoc, List.singleton_append]
    simpa using h

/-! ## What reading answers -/

theorem items_empty : items "" = [] := by
  simp [items, splitAt, trim, trimChars]

theorem parseOptionString_empty : parseOptionString "" = .ok [] := by
  rw [parseOptionString_eq_foldlM_items, items_empty]
  rfl

theorem parseOptionString_ok_iff (text : String) :
    (∃ out, parseOptionString text = .ok out) ↔
      ∀ item ∈ items text, '=' ∈ item.toList ∧ itemKey item ≠ "" := by
  rw [parseOptionString_eq_foldlM_items]
  constructor
  · rintro ⟨out, h⟩ item hitem
    exact malformed_eq_none_iff.mp ((foldlM_addItem_eq_ok.mp h).1 item hitem)
  · intro h
    exact ⟨_, foldlM_addItem_eq_ok.mpr
      ⟨fun item hitem => malformed_eq_none_iff.mpr (h item hitem), rfl⟩⟩

theorem parseOptionString_ok {text : String} {out : List (String × String)}
    (h : parseOptionString text = .ok out) :
    out.map (·.1) = ((items text).map itemKey).eraseDups ∧
      ∀ key, out.lookup key = ((items text).map itemPair).reverse.lookup key := by
  rw [parseOptionString_eq_foldlM_items] at h
  obtain ⟨-, rfl⟩ := foldlM_addItem_eq_ok.mp h
  refine ⟨?_, fun key => ?_⟩
  · rw [keys_foldl_setKey, List.map_map]
    rfl
  · rw [lookup_foldl_setKey, List.append_nil]

theorem parseOptionString_error {text : String} {e : Failure}
    (h : parseOptionString text = .error e) :
    ∃ pre bad post, items text = pre ++ bad :: post ∧
      (∀ item ∈ pre, '=' ∈ item.toList ∧ itemKey item ≠ "") ∧
        malformed bad = some e := by
  rw [parseOptionString_eq_foldlM_items] at h
  obtain ⟨pre, bad, post, hitems, hpre, hbad⟩ := foldlM_addItem_eq_error.mp h
  exact ⟨pre, bad, post, hitems, fun item hitem => malformed_eq_none_iff.mp (hpre item hitem),
    hbad⟩

/-! ## Text that reads back -/

/-- The text of options: their `key=value` items joined by `;`. -/
def render (pairs : List (String × String)) : String :=
  ";".intercalate (pairs.map fun p => p.1 ++ "=" ++ p.2)

/-- Text with no blank at either end. -/
def Unpadded (cs : List Char) : Prop :=
  (∀ c ∈ cs.head?, isBlank c = false) ∧ ∀ c ∈ cs.getLast?, isBlank c = false

/-- Options written as plain text: distinct keys, none empty or holding an
`=`, and keys and values without `;` and without blanks at either end. -/
structure Renderable (pairs : List (String × String)) : Prop where
  keys_nodup : (pairs.map (·.1)).Nodup
  key_nonempty : ∀ p ∈ pairs, p.1 ≠ ""
  key_without_eq : ∀ p ∈ pairs, '=' ∉ p.1.toList
  without_sep : ∀ p ∈ pairs, ';' ∉ p.1.toList ∧ ';' ∉ p.2.toList
  unpadded : ∀ p ∈ pairs, Unpadded p.1.toList ∧ Unpadded p.2.toList

theorem trimChars_of_unpadded {cs : List Char} (h : Unpadded cs) : trimChars cs = cs := by
  have hfront : cs.dropWhile isBlank = cs := by
    cases cs with
    | nil => rfl
    | cons c cs => simp [h.1 c rfl]
  have hback : cs.reverse.dropWhile isBlank = cs.reverse := by
    cases hr : cs.reverse with
    | nil => rfl
    | cons c rest =>
      have hc : isBlank c = false := h.2 c (by rw [← List.head?_reverse, hr]; rfl)
      simp [hc]
  unfold trimChars
  rw [hfront, hback, List.reverse_reverse]

theorem trim_of_unpadded {s : String} (h : Unpadded s.toList) : trim s = s := by
  simp [trim, trimChars_of_unpadded h]

theorem unpadded_item {k v : List Char} (hk : Unpadded k) (hv : Unpadded v) (hne : k ≠ []) :
    Unpadded (k ++ '=' :: v) := by
  refine ⟨?_, fun d hd => ?_⟩
  · obtain ⟨c, k', rfl⟩ := List.exists_cons_of_ne_nil hne
    simpa using hk.1
  rcases List.eq_nil_or_concat v with rfl | ⟨v', e, rfl⟩
  · -- an empty value leaves the `=` last
    have hd' : d = '=' := by simpa using hd.symm
    subst hd'
    decide
  · have hd' : d = e := by simpa [List.getLast?_cons] using hd.symm
    subst hd'
    exact hv.2 d (by simp)

theorem toList_item (k v : String) : (k ++ "=" ++ v).toList = k.toList ++ '=' :: v.toList := by
  simp

theorem splitAt_render {pairs : List (String × String)} (hne : pairs ≠ [])
    (hsep : ∀ p ∈ pairs, ';' ∉ p.1.toList ∧ ';' ∉ p.2.toList) :
    splitAt ';' (render pairs) = pairs.map fun p => p.1 ++ "=" ++ p.2 := by
  unfold splitAt render
  rw [String.toList_intercalate, show ";".toList = [';'] by simp, List.splitOn_intercalate]
  · simp [String.append_assoc]
  · intro l hl
    obtain ⟨a, b, hp, rfl⟩ := by simpa using hl
    simp [(hsep _ hp).1, (hsep _ hp).2]
  · simpa using hne

theorem itemPair_item {k v : String} (hk : '=' ∉ k.toList) (huk : Unpadded k.toList)
    (huv : Unpadded v.toList) : itemPair (k ++ "=" ++ v) = (k, v) := by
  have hall : ∀ c ∈ k.toList, (c != '=') = true := fun c hc => by
    simpa using fun h : c = '=' => hk (h ▸ hc)
  simp only [itemPair, itemKey, itemValue, toList_item, List.takeWhile_append_of_pos hall,
    List.dropWhile_append_of_pos hall]
  simp [trim_of_unpadded huk, trim_of_unpadded huv]

theorem items_render {pairs : List (String × String)} (h : Renderable pairs) (hne : pairs ≠ []) :
    items (render pairs) = pairs.map fun p => p.1 ++ "=" ++ p.2 := by
  have htrim : ∀ item ∈ pairs.map (fun p => p.1 ++ "=" ++ p.2), trim item = item := by
    intro item hitem
    obtain ⟨p, hp, rfl⟩ := List.mem_map.mp hitem
    have hk : p.1.toList ≠ [] := by simpa using h.key_nonempty p hp
    apply trim_of_unpadded
    rw [toList_item]
    exact unpadded_item (h.unpadded p hp).1 (h.unpadded p hp).2 hk
  unfold items
  rw [splitAt_render hne h.without_sep, List.map_congr_left htrim, List.map_id',
    List.filter_eq_self]
  intro item hitem
  obtain ⟨p, -, rfl⟩ := List.mem_map.mp hitem
  simp

theorem parseOptionString_render {pairs : List (String × String)} (h : Renderable pairs) :
    parseOptionString (render pairs) = .ok pairs := by
  by_cases hne : pairs = []
  · subst hne
    exact parseOptionString_empty
  have hitems : ∀ p ∈ pairs, itemPair (p.1 ++ "=" ++ p.2) = p := fun p hp =>
    itemPair_item (h.key_without_eq p hp) (h.unpadded p hp).1 (h.unpadded p hp).2
  rw [parseOptionString_eq_foldlM_items, items_render h hne, foldlM_addItem_eq_ok]
  constructor
  · intro item hitem
    obtain ⟨p, hp, rfl⟩ := List.mem_map.mp hitem
    rw [malformed_eq_none_iff]
    refine ⟨by simp, ?_⟩
    have hkey := congrArg Prod.fst (hitems p hp)
    simp only [itemPair] at hkey
    rw [hkey]
    exact h.key_nonempty p hp
  · have hmap : (pairs.map fun p => p.1 ++ "=" ++ p.2).map itemPair = pairs := by
      rw [List.map_map]
      calc pairs.map (itemPair ∘ fun p => p.1 ++ "=" ++ p.2)
          = pairs.map id := List.map_congr_left fun p hp => hitems p hp
        _ = pairs := List.map_id pairs
    rw [hmap, foldl_setKey_of_nodup _ _ (by simpa using h.keys_nodup), List.nil_append]

/-! ## The environment -/

theorem lookup_eq_find? (env : List (String × String)) (k : String) :
    env.lookup k = (env.find? (·.1 == k)).map (·.2) := by
  induction env with
  | nil => rfl
  | cons p env ih =>
    obtain ⟨a, b⟩ := p
    by_cases hk : k = a
    · subst hk
      simp
    · simp [List.lookup_cons, beq_eq_false_iff_ne.mpr hk, Ne.symm hk, ih]

theorem fromEnvironment_eq_read (env : List (String × String)) :
    fromEnvironment env = parseOptionString ((env.lookup environmentVariable).getD "") := by
  unfold fromEnvironment
  rw [lookup_eq_find?]
  cases env.find? (·.1 == environmentVariable) with
  | none => exact parseOptionString_empty.symm
  | some p =>
    by_cases hp : p.2 = ""
    · simp [hp, parseOptionString_empty]
    · simp [hp, String.isEmpty_iff]

/-! ## Reading -/

/-- For every text, reading it as options succeeds exactly when every
nonblank `;`-separated part, trimmed, holds an `=` with a nonblank key
before the first one. The options read have the items' keys, each once and
where it first occurs, and each key the value of its last item: the trimmed
text after the item's first `=`. Otherwise the failure is the configuration
failure naming the first item that names no option. The environment's
options are the variable's text read, none when it is unset or empty. Text
written from distinct keys and values that hold no `;`, with keys nonempty
and free of `=`, and nothing blank at either end, reads back as the options
it was written from. -/
theorem option_text_reads (text : String) :
    ((∃ out, parseOptionString text = .ok out) ↔
        ∀ item ∈ items text, '=' ∈ item.toList ∧ itemKey item ≠ "") ∧
      (∀ out, parseOptionString text = .ok out →
        out.map (·.1) = ((items text).map itemKey).eraseDups ∧
          ∀ key, out.lookup key = ((items text).map itemPair).reverse.lookup key) ∧
      (∀ e, parseOptionString text = .error e →
        ∃ pre bad post, items text = pre ++ bad :: post ∧
          (∀ item ∈ pre, '=' ∈ item.toList ∧ itemKey item ≠ "") ∧
            malformed bad = some e) ∧
      (∀ env, fromEnvironment env =
        parseOptionString ((env.lookup environmentVariable).getD "")) ∧
      ∀ pairs, Renderable pairs → parseOptionString (render pairs) = .ok pairs :=
  ⟨parseOptionString_ok_iff text, fun _ => parseOptionString_ok, fun _ => parseOptionString_error,
    fromEnvironment_eq_read, fun _ => parseOptionString_render⟩

end SmtBackend.Options

