import HostVitals.CommandLine.Help
import HostVitals.Config
import HostVitals.Platform.Linux

/-!
# Running the program

From the arguments and the environment to what is written and the exit code.  The arguments say
which settings file is read; the settings say which directory of power supplies is watched; and
what is found there is shown.

Main results:

- `run_code`: a run ends well, or with a code for what went wrong and without output.
-/

namespace HostVitals.CommandLine

open HostVitals.Files

/-- How the program ends. -/
structure Exit where
  code : Nat
  printed : Printed
  deriving DecidableEq

/-- The end of a run that went well. -/
def Exit.well (printed : Printed) : Exit := ⟨0, printed⟩

/-! ## Environment -/

/-- What the program knows of its surroundings. -/
structure Surroundings where
  environment : List (String × String)
  /-- The home directory that the system knows for the user. -/
  systemHome : String
  /-- Whether the standard output is a terminal. -/
  terminal : Bool

/-- A variable of the environment. -/
def Surroundings.get (s : Surroundings) (name : String) : Option String :=
  s.environment.lookup name

/-- Where the user's files are. -/
def Surroundings.places (s : Surroundings) : Config.Places where
  configHome := s.get "XDG_CONFIG_HOME"
  home := s.get "HOME"
  systemHome := s.systemHome

/-- Whether colours are forced. -/
def Surroundings.forced (s : Surroundings) : Bool :=
  (s.get "CLICOLOR_FORCE").any (fun value => value ≠ "0")

/-- Whether colours are welcome as far as the preference goes. -/
def Surroundings.welcome (s : Surroundings) : Bool :=
  s.get "CLICOLOR" ≠ some "0"

/-- Whether displays have colours: when they are forced, or else on a terminal unless they are
forbidden. -/
def Surroundings.colours (s : Surroundings) : Bool :=
  s.forced || ((s.get "NO_COLOR").isNone && s.welcome && s.terminal)

/-- Whether pages of help have colours, which can be forbidden even when they are forced. -/
def Surroundings.helpColours (s : Surroundings) : Bool :=
  ((s.get "NO_COLOR").getD "").isEmpty &&
    (s.forced || (s.welcome && s.terminal && s.get "TERM" ≠ some "dumb"))

/-! ## Plan -/

/-- Data that are to be collected and shown. -/
structure Job where
  topic : Topic
  look : Look
  settingsPath : String
  /-- Whether the settings file was named in the arguments. -/
  named : Bool
  deriving DecidableEq

/-- What is said when the arguments are refused. -/
def usageComplaint : String :=
  "error: these arguments are not understood\n\nFor more information, try '--help'.\n"

/-- What the program is to do: end at once, or do a job. -/
def plan (s : Surroundings) (arguments : List String) : Except Exit Job :=
  match readArguments arguments with
  | none => .error ⟨2, ⟨"", usageComplaint⟩⟩
  | some .version => .error (.well ⟨versionText, ""⟩)
  | some (.help page) => .error (.well ⟨page.text s.helpColours, ""⟩)
  | some (.tell topic json settings) =>
    .ok {
      topic
      look := ⟨json, s.colours⟩
      settingsPath := settings.getD s.places.configPath
      named := settings.isSome }

/-! ## Settings -/

/-- The causes under a message: one alone without a number, several with their numbers. -/
def causeLines : List String → List String
  | [] => []
  | [cause] => ["", "Caused by:", "    " ++ cause]
  | causes =>
    ["", "Caused by:"] ++
      causes.zipIdx.map (fun entry => "    " ++ toString entry.2 ++ ": " ++ entry.1)

/-- A message with its causes, on lines of its own. -/
def complaintText : List String → String
  | [] => ""
  | message :: causes =>
    String.join ((("Error: " ++ message) :: causeLines causes).map (· ++ "\n"))

/-- The end of a run whose settings could not be loaded. -/
def Job.settingsFailed (job : Job) (error : Config.LoadError) : Exit :=
  let context := if job.named then ["Failed to load config from " ++ job.settingsPath] else []
  ⟨1, ⟨"", complaintText (context ++ error.chain)⟩⟩

/-! ## Collecting -/

/-- The station of a host with Linux, given its files and what its sensors read. -/
def hostStation (config : Config) (files : Node) (temperatures : List RawTemperature)
    (workingDirectory : String) : Station Unit where
  platform := Platform.linux (fun _ => files) config.supplyRoot workingDirectory
  sensors := .constant (.ok temperatures)
  clock := fun host => (0, host)
  timeToLive := config.timeToLive

/-- The end of a run that broke down. -/
def brokenDown (breakdown : Breakdown) : Exit :=
  ⟨101, ⟨"", "broken down: " ++ breakdown.reason ++ "\n"⟩⟩

/-- Collects the data of a job and shows them. -/
def Job.run (job : Job) (config : Config) (files : Node) (temperatures : List RawTemperature)
    (time : Time.Instant) (workingDirectory : String) : Exit :=
  let station := hostStation config files temperatures workingDirectory
  match (tell station job.topic job.look .usual time (Session.start ())).1 with
  | .ok printed => .well printed
  | .error breakdown => brokenDown breakdown

/-- Runs the program on a host with the given files and sensors, in a working directory. -/
def run (s : Surroundings) (arguments : List String) (files : Node)
    (temperatures : List RawTemperature) (time : Time.Instant)
    (workingDirectory : String := "/") : Exit :=
  match plan s arguments with
  | .error exit => exit
  | .ok job =>
    match Config.load files job.settingsPath workingDirectory with
    | .error error => job.settingsFailed error
    | .ok loaded => job.run loaded.config files temperatures time workingDirectory

/-- A plan without a job ends well, or with code 2 and no output. -/
theorem plan_eq_error {s : Surroundings} {arguments : List String} {exit : Exit}
    (h : plan s arguments = .error exit) :
    exit.code = 0 ∨ exit.code = 2 ∧ exit.printed.stdout = "" := by
  unfold plan at h
  split at h
  · cases h
    exact .inr ⟨rfl, rfl⟩
  · cases h
    exact .inl rfl
  · cases h
    exact .inl rfl
  · cases h

/-- A run ends well, or there is nothing on the standard output.  The exit code then tells settings
that cannot be loaded, arguments that are refused and breakdowns apart. -/
theorem run_code (s : Surroundings) (arguments : List String) (files : Node)
    (temperatures : List RawTemperature) (time : Time.Instant) (workingDirectory : String) :
    let exit := run s arguments files temperatures time workingDirectory
    exit.code = 0 ∨ exit.code ∈ [1, 2, 101] ∧ exit.printed.stdout = "" := by
  intro exit
  unfold exit run
  split
  · next exit hplan =>
    refine (plan_eq_error hplan).imp_right fun hrefused => ⟨?_, hrefused.2⟩
    simp [hrefused.1]
  · next job _ =>
    split
    · exact .inr ⟨List.mem_cons_self, rfl⟩
    · next loaded _ =>
      unfold Job.run
      dsimp only
      split
      · exact .inl rfl
      · exact .inr ⟨by simp [brokenDown], rfl⟩

end HostVitals.CommandLine
