import Irccd.Foundations.Segments
import Irccd.Plugins.Basic

/-!
# The plugin plugin (`plugin.js`)

The names of the plugins are told in lines of a limited length, unless these are too many for a
channel.

* `jsLength`: the length of a string of a script;
* `pack`: the loop of `commands.list`, and `pack_eq`: each line is as long as it may be;
* `onCommand`, `onQueryCommand`: the handlers;
* `list_optimal`: the names are told in as few lines as possible, and in a channel only if these are
  not too many.
-/

namespace Irccd

/-- `s.length`: a byte that continues a character does not count. -/
def jsLength (s : CStr) : ℕ := s.countP fun c => !(0x80 ≤ c && c ≤ 0xBF)

namespace Listing

/-- `Plugin.config`, with what `parseInt` makes of the limits, if that is a number. -/
structure Config where
  maxListLines : Option ℤ
  maxListColumns : Option ℤ

/-- What `Plugin.info(name)` returns for a plugin that exists. -/
structure Info where
  author : CStr
  license : CStr
  summary : CStr
  version : CStr

/-- The keys of `Plugin.templates`. -/
inductive Template
  | usage
  | info
  | notFound
  | tooLong
  deriving DecidableEq

/-- The keywords. -/
structure Keywords where
  channel : CStr
  command : CStr
  nickname : CStr
  origin : CStr
  plugin : CStr
  server : CStr
  name : Option CStr := none
  info : Option Info := none

/-- A text, or what `Util.format` makes of a template. -/
inductive Text
  | raw (text : CStr)
  | format (template : Template) (kw : Keywords)

/-- A call of `server.message`. -/
structure Sent where
  server : CStr
  target : CStr
  text : Text

/-- What the scripts see of the bot. -/
structure World where
  info : CStr → ServerInfo
  config : Config
  /-- `Plugin.list()` -/
  plugins : List CStr
  /-- `Plugin.info(name)` -/
  pluginInfo : CStr → Option Info

section Functions

variable (env : JsEnv) (w : World)

/-- `commands.keywords` -/
def keywords (server channel origin : CStr) : Keywords where
  channel
  command := (w.info server).pfx ++ env.plugin
  nickname := splituser origin
  origin
  plugin := env.plugin
  server

/-- A name joins the last line, or starts another one. -/
def put (maxc : ℤ) (lines : List CStr) (name : CStr) : List CStr :=
  let last := lines.getLastD []
  if (jsLength name + 1 + jsLength last : ℤ) > maxc then lines ++ [name ++ [SP]]
  else lines.dropLast ++ [last ++ (name ++ [SP])]

/-- The loop of `commands.list`. -/
def pack (maxc : ℤ) (names : List CStr) : List CStr := names.foldl (put maxc) [[]]

/-- `commands.list` -/
def list (server origin target : CStr) (query : Bool) : List Sent :=
  let maxl := w.config.maxListLines.getD 3
  let maxc := w.config.maxListColumns.getD 80
  let lines := pack maxc w.plugins
  if !query && 0 < maxl && maxl < lines.length then
    [⟨server, target, .format .tooLong (keywords env w server target origin)⟩]
  else lines.map fun line => ⟨server, target, .raw line⟩

/-- `commands.info` -/
def info (server origin target name : CStr) : List Sent :=
  let kw := { keywords env w server target origin with name := some name }
  match w.pluginInfo name with
  | some info => [⟨server, target, .format .info { kw with info := some info }⟩]
  | none => [⟨server, target, .format .notFound kw⟩]

/-- `commands.usage` -/
def usage (server origin target : CStr) : List Sent :=
  [⟨server, target, .format .usage (keywords env w server target origin)⟩]

/-- `commands.execute` -/
def execute (server origin target message : CStr) (query : Bool) : List Sent :=
  if jsLength message = 0 then usage env w server origin target
  else
    match message.splitOnP (· == SP) with
    | first :: rest =>
      if first = cstr "info" then
        match rest with
        | [name] => info env w server origin target name
        | _ => usage env w server origin target
      else if first = cstr "list" then list env w server origin target query
      else usage env w server origin target
    | [] => usage env w server origin target

/-- `onCommand` -/
def onCommand (server origin channel message : CStr) : List Sent :=
  execute env w server origin channel message false

/-- `onQueryCommand` -/
def onQueryCommand (server origin message : CStr) : List Sent :=
  execute env w server origin origin message true

end Functions

/-! ## Lines -/

/-- A line of names, each with a space behind it. -/
def lineText (names : List CStr) : CStr := names.flatMap (· ++ [SP])

/-- The names fit a line. -/
def FitsLine (maxc : ℤ) (names : List CStr) : Prop := (jsLength (lineText names) : ℤ) ≤ maxc

instance (maxc : ℤ) : DecidablePred (FitsLine maxc) :=
  fun names => inferInstanceAs (Decidable ((jsLength (lineText names) : ℤ) ≤ maxc))

section Lemmas

variable {maxc : ℤ} {names cur : List CStr}

@[simp] theorem jsLength_append (s t : CStr) : jsLength (s ++ t) = jsLength s + jsLength t :=
  List.countP_append

theorem jsLength_space : jsLength [SP] = 1 := by decide

theorem lineText_concat (names : List CStr) (name : CStr) :
    lineText (names ++ [name]) = lineText names ++ (name ++ [SP]) := by
  simp [lineText]

/-- The limit is that of the line with the name. -/
theorem put_limit_iff (names : List CStr) (name : CStr) :
    (jsLength name + 1 + jsLength (lineText names) : ℤ) > maxc ↔
      ¬ FitsLine maxc (names ++ [name]) := by
  rw [FitsLine, lineText_concat, jsLength_append, jsLength_append, jsLength_space]
  omega

theorem put_concat (lines : List CStr) (name : CStr) :
    put maxc (lines ++ [lineText cur]) name =
      if FitsLine maxc (cur ++ [name]) then lines ++ [lineText (cur ++ [name])]
      else lines ++ [lineText cur] ++ [lineText [name]] := by
  have hsingle : lineText [name] = name ++ [SP] := by simp [lineText]
  rw [put, List.getLastD_concat, List.dropLast_concat, lineText_concat, hsingle]
  by_cases hfits : FitsLine maxc (cur ++ [name])
  · rw [if_neg fun hlimit => (put_limit_iff cur name).1 hlimit hfits, if_pos hfits]
  · rw [if_pos ((put_limit_iff cur name).2 hfits), if_neg hfits]

theorem foldl_put (lines : List CStr) :
    names.foldl (put maxc) (lines ++ [lineText cur]) =
      lines ++ (Segments.greedy (FitsLine maxc) cur names).map lineText := by
  induction names generalizing lines cur with
  | nil => rfl
  | cons name names ih =>
    rw [List.foldl_cons, put_concat]
    by_cases hfits : FitsLine maxc (cur ++ [name])
    · rw [if_pos hfits, ih, Segments.greedy_extend hfits]
    · rw [if_neg hfits, ih, Segments.greedy_start hfits, List.append_assoc]
      rfl

/-- Each line has as many names as fit. -/
theorem pack_eq (maxc : ℤ) (names : List CStr) :
    pack maxc names = (Segments.greedy (FitsLine maxc) [] names).map lineText := by
  show names.foldl (put maxc) ([] ++ [lineText []]) = _
  rw [foldl_put, List.nil_append]

theorem lineText_append (names names' : List CStr) :
    lineText (names ++ names') = lineText names ++ lineText names' :=
  List.flatMap_append

theorem fitsLine_append {names' : List CStr} :
    FitsLine maxc (names ++ names') ↔
      (jsLength (lineText names) + jsLength (lineText names') : ℤ) ≤ maxc := by
  rw [FitsLine, lineText_append, jsLength_append, Int.natCast_add]

theorem FitsLine.of_prefix (g h : List CStr) (hfits : FitsLine maxc h) (hgh : g <+: h) :
    FitsLine maxc g := by
  obtain ⟨names, rfl⟩ := hgh
  rw [fitsLine_append] at hfits
  rw [FitsLine]
  omega

theorem FitsLine.of_suffix (g h : List CStr) (hfits : FitsLine maxc h) (hgh : g <:+ h) :
    FitsLine maxc g := by
  obtain ⟨names, rfl⟩ := hgh
  rw [fitsLine_append] at hfits
  rw [FitsLine]
  omega

theorem fitsLine_singleton {name : CStr} :
    FitsLine maxc [name] ↔ (jsLength name + 1 : ℤ) ≤ maxc := by
  have hsingle : lineText [name] = name ++ [SP] := by simp [lineText]
  rw [FitsLine, hsingle, jsLength_append, jsLength_space]
  omega

/-- The first name does not leave the line empty. -/
theorem greedy_first {name : CStr} (hname : FitsLine maxc [name]) :
    Segments.greedy (FitsLine maxc) [] (name :: names) =
      Segments.greedy (FitsLine maxc) [name] names := by
  have hfirst : FitsLine maxc ([] ++ [name]) := hname
  exact Segments.greedy_extend hfirst

/-- The lines of the loop are a cut of the names, and no cut has fewer lines. -/
theorem pack_shortest (hnames : names ≠ []) (hfit : ∀ name ∈ names, FitsLine maxc [name]) :
    ∃ lines, Segments.Cuts (FitsLine maxc) names lines ∧
      (∀ lines', Segments.Cuts (FitsLine maxc) names lines' → lines.length ≤ lines'.length) ∧
      pack maxc names = lines.map lineText := by
  obtain ⟨name, rest, rfl⟩ := List.exists_cons_of_ne_nil hnames
  have hname : FitsLine maxc [name] := hfit name List.mem_cons_self
  have hrest : ∀ name ∈ rest, FitsLine maxc [name] :=
    fun name' hmem => hfit name' (List.mem_cons_of_mem name hmem)
  refine ⟨Segments.greedy (FitsLine maxc) [name] rest, ?_, ?_, ?_⟩
  · exact Segments.cuts_greedy hname hrest
  · intro lines' hcuts
    apply Segments.length_greedy_le FitsLine.of_prefix FitsLine.of_suffix _ hcuts
    exact List.cons_ne_nil name []
  · rw [pack_eq, greedy_first hname]

/-- A message that begins with the word asks for the list. -/
theorem execute_list (env : JsEnv) (w : World) (server origin target : CStr) {message : CStr}
    (query : Bool) (hlist : (message.splitOnP (· == SP)).head? = some (cstr "list")) :
    execute env w server origin target message query = list env w server origin target query := by
  have hlength : jsLength message ≠ 0 := by
    intro hzero
    -- the word has characters, and the message has those of the word
    obtain ⟨rest, hsplit⟩ := List.head?_eq_some_iff.1 hlist
    have hjoin : [SP].intercalate (message.splitOn SP) = message := List.intercalate_splitOn SP
    have hsplit : message.splitOn SP = cstr "list" :: rest := hsplit
    have hbegins : cstr "list" <+: message := by
      rw [← hjoin, hsplit]
      cases rest with
      | nil => simp
      | cons b rest =>
        rw [List.intercalate_cons_cons, List.append_assoc]
        exact List.prefix_append _ _
    obtain ⟨tail, rfl⟩ := hbegins
    rw [jsLength_append] at hzero
    have hword : jsLength (cstr "list") = 4 := by decide
    omega
  obtain ⟨rest, hsplit⟩ := List.head?_eq_some_iff.1 hlist
  have hinfo : cstr "list" ≠ cstr "info" := by decide
  simp only [execute, if_neg hlength, hsplit, if_neg hinfo, if_true]

/-- The names are told in as few lines as they can be cut into, unless that is too many for a
channel. -/
theorem list_eq (env : JsEnv) (w : World) (server origin target : CStr) (query : Bool)
    {lines : List (List CStr)}
    (hpack : pack (w.config.maxListColumns.getD 80) w.plugins = lines.map lineText) :
    list env w server origin target query =
      if query = false ∧ 0 < w.config.maxListLines.getD 3 ∧
          w.config.maxListLines.getD 3 < lines.length then
        [⟨server, target, .format .tooLong (keywords env w server target origin)⟩]
      else lines.map fun names => ⟨server, target, .raw (lineText names)⟩ := by
  simp only [list, hpack, List.length_map, List.map_map, Bool.and_eq_true, Bool.not_eq_true',
    decide_eq_true_eq, and_assoc]
  rfl

end Lemmas

/-- A message that asks for the list is answered with the names in as few lines as they can be cut
into, in a query always, and in a channel unless every cut has too many lines. -/
theorem list_optimal (env : JsEnv) (w : World) (server origin channel message : CStr)
    (hlist : (message.splitOnP (· == SP)).head? = some (cstr "list")) (hplugins : w.plugins ≠ [])
    (hfit : ∀ name ∈ w.plugins, (jsLength name + 1 : ℤ) ≤ w.config.maxListColumns.getD 80) :
    ∃ lines, Segments.Cuts (FitsLine (w.config.maxListColumns.getD 80)) w.plugins lines ∧
      (∀ lines', Segments.Cuts (FitsLine (w.config.maxListColumns.getD 80)) w.plugins lines' →
        lines.length ≤ lines'.length) ∧
      onQueryCommand env w server origin message =
        lines.map (fun names => ⟨server, origin, .raw (lineText names)⟩) ∧
      onCommand env w server origin channel message =
        if 0 < w.config.maxListLines.getD 3 ∧ w.config.maxListLines.getD 3 < lines.length then
          [⟨server, channel, .format .tooLong (keywords env w server channel origin)⟩]
        else lines.map fun names => ⟨server, channel, .raw (lineText names)⟩ := by
  obtain ⟨lines, hcuts, hshort, hpack⟩ :=
    pack_shortest hplugins fun name hmem => fitsLine_singleton.2 (hfit name hmem)
  refine ⟨lines, hcuts, hshort, ?_, ?_⟩
  · rw [onQueryCommand, execute_list env w server origin origin true hlist,
      list_eq env w server origin origin true hpack, if_neg fun h => nomatch h.1]
  · rw [onCommand, execute_list env w server origin channel false hlist,
      list_eq env w server origin channel false hpack]
    simp only [true_and]

/-- A bot with three plugins, and lines of twelve characters. -/
def threePlugins : World where
  info _ := ⟨cstr "!", cstr "irccd", []⟩
  config := ⟨some 1, some 12⟩
  plugins := [cstr "ask", cstr "plugin", cstr "tictactoe"]
  pluginInfo _ := none

theorem list_threePlugins :
    ∃ lines, Segments.Cuts (FitsLine 12) threePlugins.plugins lines ∧
      (∀ lines', Segments.Cuts (FitsLine 12) threePlugins.plugins lines' →
        lines.length ≤ lines'.length) ∧
      onQueryCommand (asciiEnv (cstr "plugin")) threePlugins (cstr "local") (cstr "jean!j@h")
          (cstr "list") =
        lines.map (fun names => ⟨cstr "local", cstr "jean!j@h", .raw (lineText names)⟩) ∧
      onCommand (asciiEnv (cstr "plugin")) threePlugins (cstr "local") (cstr "jean!j@h")
          (cstr "#staff") (cstr "list") =
        if (0 : ℤ) < 1 ∧ (1 : ℤ) < lines.length then
          [⟨cstr "local", cstr "#staff", .format .tooLong (keywords (asciiEnv (cstr "plugin"))
            threePlugins (cstr "local") (cstr "#staff") (cstr "jean!j@h"))⟩]
        else lines.map fun names => ⟨cstr "local", cstr "#staff", .raw (lineText names)⟩ :=
  list_optimal (asciiEnv (cstr "plugin")) threePlugins (cstr "local") (cstr "jean!j@h")
    (cstr "#staff") (cstr "list") (by decide) (List.cons_ne_nil _ _) (by decide)

end Listing

end Irccd
