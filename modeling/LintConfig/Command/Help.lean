import LintConfig.Value.Text

/-! The help text of the command line. -/

namespace LintConfig.Command

def helpLines : List String := [
  "Usage: lint-init [OPTIONS] [PATTERNS]...",
  "",
  "  lint-init -- generate an ESLint config from answers or existing code.",
  "",
  "  Examples:",
  "    lint-init --quotes double --no-semi --env browser",
  "    lint-init --style-guide airbnb --format YAML",
  "    lint-init lib tests --env node --commonjs",
  "    lint-init --answers answers.yaml --dry-run",
  "",
  "Options:",
  "  --answers FILE                  YAML file with answers (keys are answer",
  "                                  field names)",
  "  --style-guide [google|airbnb|standard]",
  "                                  Use a popular style guide instead of",
  "                                  inferring rules",
  "  --indent TEXT                   Indentation: number of spaces, or 'tab'",
  "  --quotes [single|double]",
  "  --linebreak [unix|windows]",
  "  --semi / --no-semi              Require or forbid semicolons",
  "  --es6 / --no-es6                Enable the es6 environment",
  "  --env TEXT                      Environment to enable (repeatable)",
  "  --jsx / --no-jsx",
  "  --react / --no-react",
  "  --commonjs / --no-commonjs",
  "  --format [JSON|YAML|JavaScript]",
  "                                  Config file format (default: from config)",
  "  --output TEXT                   Output directory (default: from config)",
  "  --interactive                   Prompt for answers on the terminal",
  "  --dry-run                       Print the config instead of writing it",
  "  --skip-package-check            Do not check node_modules for required",
  "                                  presets and plugins",
  "  --verbose                       Enable DEBUG-level logging",
  "  --help                          Show this message and exit."]

def help : String := joined "\n" helpLines ++ "\n"

end LintConfig.Command
