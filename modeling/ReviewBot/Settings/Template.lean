set_option autoImplicit false

/-!
# A file with settings to begin with
-/

namespace ReviewBot.Settings

/-- A file in which every setting has its usual value, and those without one are commented out. -/
def template : String :=
  "# lookout configuration\n" ++
  "# Every key is optional; LOOKOUT_* environment variables override this file.\n" ++
  "\n" ++
  "[github]\n" ++
  "api_url = \"https://api.github.com\"\n" ++
  "\n" ++
  "[github.app]\n" ++
  "# id = 12345\n" ++
  "# client_id = \"Iv1.0000000000000000\"\n" ++
  "# private_key_path = \"/etc/lookout/app.pem\"\n" ++
  "# webhook_secret = \"change-me\"\n" ++
  "\n" ++
  "[llm]\n" ++
  "model = \"qwen2.5-coder:7b\"\n" ++
  "base_url = \"http://localhost:11434\"\n" ++
  "timeout_seconds = 60\n" ++
  "enabled = true\n" ++
  "\n" ++
  "[app]\n" ++
  "max_diff_size_bytes = 1048576\n" ++
  "max_files_per_pr = 50\n" ++
  "heuristics_enabled = true\n" ++
  "llm_enabled = true\n" ++
  "enable_comment_deletion = false\n" ++
  "\n" ++
  "[server]\n" ++
  "bind_address = \"0.0.0.0:8080\"\n"

end ReviewBot.Settings
