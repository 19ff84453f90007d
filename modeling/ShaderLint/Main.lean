/-
The command line.

The settings are looked up in the environment and in the file `.env` of the directory in which the
command runs; the values in that file may refer to any variable of the environment. The launch that
the settings ask for is printed as one line of JSON. Settings that do not fit are reported on
standard error, and the command then ends with code 1.
-/
import ShaderLint.Json.Writer
import ShaderLint.Service.Library
import ShaderLint.Settings.File

set_option autoImplicit false

namespace ShaderLint

/-- The variables of the environment that matter: the settings, each under its name in either case,
and what the settings file refers to. -/
def environmentVariables (file : String) : IO Variables :=
  let names := Settings.names ++ Settings.names.map Text.lower
    ++ (Reference.all file.toList).map Reference.name
  names.eraseDups.filterMapM fun name => do
    return (← IO.getEnv name).map fun value => (name, some value)

/-- The text of the settings file, which need not be there. -/
def settingsText : IO String := do
  try IO.FS.readFile ".env"
  catch
    | .noFileOrDirectory .. => return ""
    | fault => throw fault

/-- Prints how the server is to be launched, and answers with the exit code. -/
def printLaunch : IO UInt32 := do
  let file ← settingsText
  let environment ← environmentVariables file
  match Settings.read environment (SettingsFile.entries environment file) with
  | .ok settings =>
    IO.println (Launch.ofSettings settings).toJson.write
    return 0
  | .error rejection =>
    IO.eprintln (rejection.message ({} : Library).help)
    return 1

end ShaderLint

/-- The command. -/
def main : IO UInt32 := ShaderLint.printLaunch
