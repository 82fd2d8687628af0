/-
What each character of a line of SQL is part of.

The rules are painted one over the other, so a character has the role of the last rule that covers it
(`getElem?_roles`). What each of them covers is said without its pattern: a comment is what stands
behind two dashes, the quoted texts are the longest literals from left to right, and keywords and
numbers are whole words. How the cases of letters are folded matters for keywords only, and there only
if a character of the line that is no letter of ASCII folds to one.
-/
import SqlDesk.Proofs.Editor.Word

namespace SqlDesk.Highlight

/-! ## Layers -/

/-- Whether a rule covers a place of a text. -/
def covers (cs : List Char) (i : Nat) (rule : Rule) : Bool :=
  (cover rule cs)[i]? == some true

theorem covers_iff {cs : List Char} {i : Nat} {rule : Rule} :
    covers cs i rule = true ↔ (cover rule cs)[i]? = some true :=
  beq_iff_eq

theorem length_repaint (cs : List Char) (rule : Rule) (role : Role) (painted : List (Option Role)) :
    (repaint (cover rule cs) role painted).length = min cs.length painted.length := by
  rw [repaint, List.length_zipWith, length_cover]

theorem length_roles (cs : List Char) (fold : Char → Char) :
    (roles cs fold).length = cs.length := by
  rw [roles, List.foldl_eq_foldr_reverse]
  induction (rules fold).reverse with
  | nil => simp
  | cons r layers ih => rw [List.foldr_cons, length_repaint, ih, Nat.min_self]

theorem getElem?_repaint {cs : List Char} {i : Nat} (hi : i < cs.length) (rule : Rule) (role : Role)
    (painted : List (Option Role)) : (repaint (cover rule cs) role painted)[i]? =
      painted[i]?.map fun old => if covers cs i rule then some role else old := by
  have hlt : i < (cover rule cs).length := by rwa [length_cover]
  rw [repaint, List.getElem?_zipWith, covers, List.getElem?_eq_getElem hlt]
  cases painted[i]? with
  | none => rfl
  | some old =>
    generalize (cover rule cs)[i] = covered
    cases covered <;> rfl

/-- **A character has the role of the last rule that covers it.** -/
theorem getElem?_roles {cs : List Char} {i : Nat} (hi : i < cs.length) (fold : Char → Char) :
    (roles cs fold)[i]? =
      some (((rules fold).reverse.find? fun r => covers cs i r.1).map Prod.snd) := by
  rw [roles, List.foldl_eq_foldr_reverse]
  induction (rules fold).reverse with
  | nil => simp [hi]
  | cons r layers ih =>
    rw [List.foldr_cons, getElem?_repaint hi, ih, List.find?_cons]
    cases covers cs i r.1 <;> rfl

/-- The rules without patterns, but for keywords. -/
theorem rules_eq (fold : Char → Char) : rules fold =
    [((keywordPattern fold).find, .keyword), (numberRule, .number), (stringRule, .string),
      (commentRule, .comment)] := by
  have hnumber : numberPattern.find = numberRule := funext₂ find_number
  have hstring : stringPattern.find = stringRule := funext₂ find_string
  have hcomment : commentPattern.find = commentRule := funext₂ find_comment
  rw [rules, hnumber, hstring, hcomment]

/-- The role of a character by which rules cover it. -/
def topmost (keyword number string comment : Bool) : Option Role :=
  if comment then some .comment
  else if string then some .string
  else if number then some .number
  else if keyword then some .keyword
  else none

section

variable {keyword number string comment : Bool}

theorem topmost_eq_comment_iff :
    topmost keyword number string comment = some .comment ↔ comment = true := by
  revert keyword number string comment
  decide

theorem topmost_eq_string_iff (hcomment : topmost keyword number string comment ≠ some .comment) :
    topmost keyword number string comment = some .string ↔ string = true := by
  revert keyword number string comment
  decide

theorem topmost_eq_number_iff (hcomment : topmost keyword number string comment ≠ some .comment)
    (hstring : topmost keyword number string comment ≠ some .string) :
    topmost keyword number string comment = some .number ↔ number = true := by
  revert keyword number string comment
  decide

theorem topmost_eq_keyword_iff (hcomment : topmost keyword number string comment ≠ some .comment)
    (hstring : topmost keyword number string comment ≠ some .string) :
    topmost keyword number string comment = some .keyword ↔ keyword = true ∧ number = false := by
  revert keyword number string comment
  decide

theorem keyword_of_topmost (h : topmost keyword number string comment = some .keyword) :
    keyword = true := by
  revert keyword number string comment
  decide

theorem exists_topmost_eq (h : (number || string || comment) = true) :
    ∃ role, topmost keyword number string comment = some role ∧ role ≠ .keyword := by
  revert keyword number string comment
  decide

end

theorem getElem?_roles_eq_topmost {cs : List Char} {i : Nat} (hi : i < cs.length)
    (fold : Char → Char) : (roles cs fold)[i]? = some (topmost
      (covers cs i (keywordPattern fold).find) (covers cs i numberRule) (covers cs i stringRule)
      (covers cs i commentRule)) := by
  rw [getElem?_roles hi]
  simp only [rules_eq, List.reverse_cons, List.reverse_nil, List.nil_append, List.cons_append,
    List.find?_cons, List.find?_nil, topmost]
  cases covers cs i commentRule <;> cases covers cs i stringRule <;>
    cases covers cs i numberRule <;> cases covers cs i (keywordPattern fold).find <;> rfl

/-! ## Comments -/

theorem commentRule_dashes {before : Option Char} {cs : List Char} (hline : '\n' ∉ cs) :
    commentRule before ('-' :: '-' :: cs) = some (cs.length + 2) := by
  have hall : cs.takeWhile (· ≠ '\n') = cs :=
    List.takeWhile_eq_self_iff.mpr fun c hc =>
      decide_eq_true fun heq => hline (heq ▸ hc)
  rw [commentRule, hall, Nat.add_comm]

theorem commentRule_eq_none {before : Option Char} {cs : List Char}
    (h : ∀ back, cs ≠ '-' :: '-' :: back) : commentRule before cs = none := by
  unfold commentRule
  split
  next back => exact absurd rfl (h back)
  next => rfl

/-- **A comment is what stands behind two dashes**, with them, up to the end of the line. -/
theorem covered_comment_iff {cs : List Char} (hline : '\n' ∉ cs) {before : Option Char} {i : Nat}
    (hi : i < cs.length) : (coverFrom commentRule before 0 cs)[i]? = some true ↔
      ∃ front back, cs = front ++ '-' :: '-' :: back ∧ front.length ≤ i := by
  induction cs generalizing before i with
  | nil => cases hi
  | cons c rest ih =>
    by_cases hdashes : ∃ back, c :: rest = '-' :: '-' :: back
    · obtain ⟨back, hcs⟩ := hdashes
      rw [hcs] at hline hi ⊢
      have hback : '\n' ∉ back := fun hmem => hline (by simp [hmem])
      refine iff_of_true ?_ ⟨[], back, rfl, Nat.zero_le i⟩
      rw [coverFrom_zero (commentRule_dashes hback)]
      exact (congrArg (·[i]?) (coverFrom_length commentRule before _)).trans
        (List.getElem?_replicate_of_lt hi)
    · have hnone : ∀ back, c :: rest ≠ '-' :: '-' :: back := fun back h => hdashes ⟨back, h⟩
      rw [coverFrom_of_none (commentRule_eq_none hnone)]
      cases i with
      | zero =>
        refine iff_of_false (by simp) ?_
        rintro ⟨front, back, hcs, hle⟩
        rw [List.length_eq_zero_iff.mp (Nat.le_zero.mp hle)] at hcs
        exact hnone back hcs
      | succ i =>
        rw [List.getElem?_cons_succ,
          ih (fun hmem => hline (List.mem_cons_of_mem c hmem)) (Nat.lt_of_succ_lt_succ hi)]
        constructor
        · rintro ⟨front, back, rfl, hle⟩
          exact ⟨c :: front, back, rfl, Nat.succ_le_succ hle⟩
        · rintro ⟨front, back, hcs, hle⟩
          cases front with
          | nil => exact absurd hcs (hnone back)
          | cons d front =>
            exact ⟨front, back, (List.cons.inj hcs).2, Nat.le_of_succ_le_succ hle⟩

/-! ## Quoted texts -/

/-- The rest of a literal behind its first quote: a quote in it stands twice, and one ends it. -/
inductive Closes : List Char → Prop
  | quote : Closes ['\'']
  | char {c : Char} {rest : List Char} (hc : c ≠ '\'') (hrest : Closes rest) : Closes (c :: rest)
  | quotes {rest : List Char} (hrest : Closes rest) : Closes ('\'' :: '\'' :: rest)

/-- A literal, with an N in front of it or without. -/
inductive IsLiteral : List Char → Prop
  | plain {rest : List Char} (hrest : Closes rest) : IsLiteral ('\'' :: rest)
  | national {rest : List Char} (hrest : Closes rest) : IsLiteral ('N' :: '\'' :: rest)

theorem isLongest_quotedLength? (cs : List Char) : IsLongest Closes cs (quotedLength? cs) := by
  fun_induction quotedLength? cs with
  | case1 =>
    intro other hother hprefix
    rw [List.prefix_nil.mp hprefix] at hother
    cases hother
  | case2 rest n hn ih =>
    rw [hn] at ih
    obtain ⟨⟨found, more, rfl, hfound, rfl⟩, hlongest⟩ := ih
    refine ⟨⟨'\'' :: '\'' :: found, more, rfl, .quotes hfound, rfl⟩, ?_⟩
    intro other hother hprefix
    cases hother with
    | quote => simp
    | char hc => exact absurd (List.cons_prefix_cons.mp hprefix).1 hc
    | quotes htail =>
      have htail' := (List.cons_prefix_cons.mp (List.cons_prefix_cons.mp hprefix).2).2
      exact Nat.add_le_add_right (hlongest _ htail htail') 2
  | case3 rest hnone ih =>
    rw [hnone] at ih
    refine ⟨⟨['\''], '\'' :: rest, rfl, .quote, rfl⟩, ?_⟩
    intro other hother hprefix
    cases hother with
    | quote => exact Nat.le_refl 1
    | char hc => exact absurd (List.cons_prefix_cons.mp hprefix).1 hc
    | quotes htail =>
      exact absurd (List.cons_prefix_cons.mp (List.cons_prefix_cons.mp hprefix).2).2 (ih _ htail)
  | case4 rest hlast =>
    refine ⟨⟨['\''], rest, rfl, .quote, rfl⟩, ?_⟩
    intro other hother hprefix
    cases hother with
    | quote => exact Nat.le_refl 1
    | char hc => exact absurd (List.cons_prefix_cons.mp hprefix).1 hc
    | quotes htail =>
      obtain ⟨more, hmore⟩ := (List.cons_prefix_cons.mp hprefix).2
      exact (hlast _ rfl hmore.symm).elim
  | case5 c rest _ hc ih =>
    refine ih.cons (fun _ => .char hc) ?_
    intro other hother hprefix
    cases hother with
    | quote => exact absurd (List.cons_prefix_cons.mp hprefix).1.symm hc
    | char _ htail =>
      obtain ⟨rfl, -⟩ := List.cons_prefix_cons.mp hprefix
      exact ⟨_, rfl, htail⟩
    | quotes => exact absurd (List.cons_prefix_cons.mp hprefix).1.symm hc

theorem isLongest_stringRule (before : Option Char) (cs : List Char) :
    IsLongest IsLiteral cs (stringRule before cs) := by
  unfold stringRule
  split
  next rest =>
    have hquote : IsLongest (fun text => ∃ more, text = '\'' :: more ∧ Closes more) ('\'' :: rest)
        ((quotedLength? rest).map (· + 1)) :=
      (isLongest_quotedLength? rest).cons (fun more hmore => ⟨more, rfl, hmore⟩)
        fun _ ⟨more, hother, hmore⟩ _ => ⟨more, hother, hmore⟩
    have hnational : IsLongest IsLiteral ('N' :: '\'' :: rest)
        (((quotedLength? rest).map (· + 1)).map (· + 1)) := by
      refine hquote.cons (fun _ ⟨more, heq, hmore⟩ => heq ▸ .national hmore) ?_
      intro other hother hprefix
      cases hother with
      | plain => exact absurd (List.cons_prefix_cons.mp hprefix).1 (by decide)
      | national hmore => exact ⟨_, rfl, _, rfl, hmore⟩
    rwa [Option.map_map] at hnational
  next rest =>
    refine (isLongest_quotedLength? rest).cons (fun _ => .plain) ?_
    intro other hother hprefix
    cases hother with
    | plain hmore => exact ⟨_, rfl, hmore⟩
    | national => exact absurd (List.cons_prefix_cons.mp hprefix).1 (by decide)
  next hnational hplain =>
    intro other hother hprefix
    obtain ⟨more, hmore⟩ := hprefix
    cases hother with
    | plain => exact hplain _ hmore.symm
    | national => exact hnational _ hmore.symm

theorem scan_string (cs : List Char) : Scan IsLiteral cs (cover stringRule cs) :=
  scan_coverFrom nofun isLongest_stringRule none cs

/-! ## Runs -/

/-- Whether a run makes the character at a place look in some way. -/
def Run.Shows (run : Run) (i : Nat) (seen : String × Bool) : Prop :=
  run.start ≤ i ∧ i < run.start + run.length ∧ run.look = seen

theorem shows_one_iff {offset i : Nat} {seen seen' : String × Bool} :
    Run.Shows ⟨offset, 1, seen⟩ i seen' ↔ i = offset ∧ seen = seen' := by
  have hplace : offset ≤ i ∧ i < offset + 1 ↔ i = offset := by omega
  rw [Run.Shows, ← and_assoc, hplace]

theorem shows_succ_iff {run : Run} {offset i : Nat} {seen : String × Bool}
    (hstart : run.start = offset + 1) :
    Run.Shows ⟨offset, run.length + 1, run.look⟩ i seen ↔
      i = offset ∧ run.look = seen ∨ run.Shows i seen := by
  have hplace : offset ≤ i ∧ i < offset + (run.length + 1) ↔
      i = offset ∨ run.start ≤ i ∧ i < run.start + run.length := by omega
  rw [Run.Shows, Run.Shows, ← and_assoc, ← and_assoc, hplace, or_and_right]

theorem exists_shows_runsFrom_some_iff {offset i : Nat} {seen seen' : String × Bool}
    {looks : List (Option (String × Bool))} :
    (∃ run ∈ runsFrom offset (some seen :: looks), run.Shows i seen') ↔
      i = offset ∧ seen = seen' ∨ ∃ run ∈ runsFrom (offset + 1) looks, run.Shows i seen' := by
  rw [runsFrom]
  split
  next hnil => simp [hnil, shows_one_iff]
  next run runs hruns =>
    rw [hruns]
    split
    next hjoin =>
      rw [Bool.and_eq_true, decide_eq_true_eq, decide_eq_true_eq] at hjoin
      obtain ⟨hstart, rfl⟩ := hjoin
      simp only [List.mem_cons, exists_eq_or_imp, shows_succ_iff hstart, or_assoc]
    next => simp only [List.mem_cons, exists_eq_or_imp, shows_one_iff]

theorem exists_shows_runsFrom_iff {offset j : Nat} {seen : String × Bool}
    {looks : List (Option (String × Bool))} :
    (∃ run ∈ runsFrom offset looks, run.Shows j seen) ↔
      ∃ i, j = offset + i ∧ looks[i]? = some (some seen) := by
  induction looks generalizing offset with
  | nil => simp [runsFrom]
  | cons look looks ih =>
    have hcons : (∃ i, j = offset + i ∧ (look :: looks)[i]? = some (some seen)) ↔
        j = offset ∧ look = some seen ∨
          ∃ i, j = offset + 1 + i ∧ looks[i]? = some (some seen) := by
      constructor
      · rintro ⟨i, rfl, hi⟩
        cases i with
        | zero => exact .inl ⟨rfl, Option.some.inj hi⟩
        | succ i => exact .inr ⟨i, by omega, hi⟩
      · rintro (⟨rfl, rfl⟩ | ⟨i, rfl, hi⟩)
        · exact ⟨0, rfl, rfl⟩
        · exact ⟨i + 1, by omega, hi⟩
    rw [hcons]
    cases look with
    | none => simp [runsFrom, ih]
    | some seen' => simp [exists_shows_runsFrom_some_iff, ih]

/-- How the characters of a role are shown in some colours: only keywords can be bold. -/
inductive Wears (colors : ColorSettings) : Role → String × Bool → Prop
  | keyword : Wears colors .keyword (colors.keyword, colors.keywordBold)
  | number : Wears colors .number (colors.number, false)
  | string : Wears colors .string (colors.string, false)
  | comment : Wears colors .comment (colors.comment, false)

theorem look_eq_iff {colors : ColorSettings} {role : Role} {seen : String × Bool} :
    look colors role = seen ↔ Wears colors role seen := by
  constructor
  · rintro rfl
    cases role with
    | keyword => exact .keyword
    | number => exact .number
    | string => exact .string
    | comment => exact .comment
  · intro h
    cases h <;> rfl

/-- **The runs of a line show each character in the colours of its role**, and nothing else. -/
theorem exists_shows_runs_iff {colors : ColorSettings} {cs : List Char} {fold : Char → Char}
    {i : Nat} {seen : String × Bool} : (∃ run ∈ runs colors cs fold, run.Shows i seen) ↔
      ∃ role, (roles cs fold)[i]? = some (some role) ∧ Wears colors role seen := by
  rw [runs, exists_shows_runsFrom_iff]
  simp only [Nat.zero_add, exists_eq_left', List.getElem?_map, Option.map_eq_some_iff,
    ← look_eq_iff]
  constructor
  · rintro ⟨_, hi, role, rfl, hlook⟩
    exact ⟨role, hi, hlook⟩
  · rintro ⟨role, hi, hlook⟩
    exact ⟨some role, hi, role, rfl, hlook⟩

/-! ## The law of a line -/

/-- What the role of a character has to do with the text around it, where `strings` says which
characters the quoted texts cover. -/
structure CellLaw (fold : Char → Char) (cs : List Char) (strings : List Bool) (i : Nat)
    (role : Option Role) : Prop where
  -- From the first two dashes on, all is a comment.
  comment : role = some .comment ↔ ∃ front back, cs = front ++ '-' :: '-' :: back ∧ front.length ≤ i
  string (hcomment : role ≠ some .comment) : role = some .string ↔ strings[i]? = some true
  keyword (hfold : ∀ c ∈ cs, FoldsAscii fold c) (hcomment : role ≠ some .comment)
    (hstring : role ≠ some .string) :
    role = some .keyword ↔ ∃ word, WordAround cs i word ∧
      ∃ keyword ∈ keywords, keyword.toList.map Char.toUpper = word.map Char.toUpper
  -- However letters are folded, a keyword stands between boundaries.
  folded (hkeyword : role = some .keyword) : ∃ front read rest, cs = front ++ (read ++ rest) ∧
    front.length ≤ i ∧ i < front.length + read.length ∧
    (∃ keyword ∈ keywords, read.map fold = keyword.toList.map fold) ∧
    (Place.mk front.getLast? (read ++ rest)).isBoundary = true ∧
    (Place.mk (front ++ read).getLast? rest).isBoundary = true
  number (hcomment : role ≠ some .comment) (hstring : role ≠ some .string) {word : List Char}
    (hword : WordAround cs i word) : role = some .number ↔ word.all Char.isDigit = true
  -- What a later rule covers is not bold, whatever the colours are.
  weight (colors : ColorSettings) {later : Rule × Role} (hlater : later ∈ (rules fold).tail)
    (hcovered : (cover later.1 cs)[i]? = some true) :
    ∃ found color, role = some found ∧ Wears colors found (color, false) ∧ found ≠ .keyword

theorem covered_folded {fold : Char → Char} {cs : List Char} {i : Nat}
    (h : (cover (keywordPattern fold).find cs)[i]? = some true) :
    ∃ front read rest, cs = front ++ (read ++ rest) ∧ front.length ≤ i ∧
      i < front.length + read.length ∧
      (∃ keyword ∈ keywords, read.map fold = keyword.toList.map fold) ∧
      (Place.mk front.getLast? (read ++ rest)).isBoundary = true ∧
      (Place.mk (front ++ read).getLast? rest).isBoundary = true := by
  obtain ⟨front, rest, n, rfl, hmatch, hle, hlt⟩ :=
    (exists_match_of_covered h).resolve_left (Nat.not_lt_zero i)
  obtain ⟨hstart, keyword, hmem, read, rest, rfl, hread, hend, rfl⟩ := find_keyword_eq_some hmatch
  rw [lastOr_none] at hstart hend
  rw [lastOr_getLast?] at hend
  exact ⟨front, read, rest, rfl, hle, hlt, ⟨keyword, hmem, hread⟩, hstart, hend⟩

theorem cellLaw {cs : List Char} (hline : '\n' ∉ cs) {i : Nat} (hi : i < cs.length)
    (fold : Char → Char) : CellLaw fold cs (cover stringRule cs) i
      (topmost (covers cs i (keywordPattern fold).find) (covers cs i numberRule)
        (covers cs i stringRule) (covers cs i commentRule)) where
  comment := topmost_eq_comment_iff.trans (covers_iff.trans (covered_comment_iff hline hi))
  string hcomment := (topmost_eq_string_iff hcomment).trans covers_iff
  keyword hfold hcomment hstring := by
    rw [topmost_eq_keyword_iff hcomment hstring, covers_iff, covered_keyword_iff hfold]
    simp only [← isKeyword_iff]
    -- Where a keyword is, there is no number.
    refine and_iff_left_of_imp ?_
    rintro ⟨word, hword, hkeyword⟩
    rw [Bool.eq_false_iff, Ne, covers_iff, numberRule_wordRule.covered_iff hword]
    intro hdigits
    rw [isKeyword_eq_false hdigits] at hkeyword
    cases hkeyword
  folded hkeyword := covered_folded (covers_iff.mp (keyword_of_topmost hkeyword))
  number hcomment hstring _ hword :=
    (topmost_eq_number_iff hcomment hstring).trans
      (covers_iff.trans (numberRule_wordRule.covered_iff hword))
  weight colors later hlater hcovered := by
    rw [← covers_iff] at hcovered
    have hlaid : (covers cs i numberRule || covers cs i stringRule || covers cs i commentRule) =
        true := by
      simp only [rules_eq, List.tail_cons, List.mem_cons, List.not_mem_nil, or_false] at hlater
      rcases hlater with rfl | rfl | rfl <;> simp [hcovered]
    obtain ⟨found, hrole, hfound⟩ := exists_topmost_eq hlaid
    cases found with
    | keyword => exact absurd rfl hfound
    | number => exact ⟨_, _, hrole, .number, hfound⟩
    | string => exact ⟨_, _, hrole, .string, hfound⟩
    | comment => exact ⟨_, _, hrole, .comment, hfound⟩

/-- A folding that knows the long s and the Kelvin sign as letters. -/
def foldWide (c : Char) : Char :=
  if c = '\u017f' then 'S' else if c = '\u212a' then 'K' else c.toUpper

theorem foldsAscii_foldWide {c : Char} (hlong : c ≠ '\u017f') (hkelvin : c ≠ '\u212a') :
    FoldsAscii foldWide c := by
  intro k hk
  have hk' : foldWide k = k := by
    have hne {d : Char} (hd : d.isUpper = false) : k ≠ d := by
      rintro rfl
      rw [hk] at hd
      cases hd
    rw [foldWide, if_neg (hne rfl), if_neg (hne rfl),
      Char.toUpper_eq_of_not_isLower (Char.not_isLower_of_isUpper hk)]
  rw [hk', foldWide, if_neg hlong, if_neg hkelvin]

/-- A word with a long s in it is a keyword to such a folding, though it is none in ASCII. -/
example : (roles "CA\u017fE".toList foldWide)[2]? = some (some .keyword) ∧
    roles "CA\u017fE".toList = [none, none, none, none] := by
  decide +kernel

end SqlDesk.Highlight
