/-!
# Shortcodes that start with no letter from `a` to `z`

Names of emojis and the emojis they stand for.
-/

namespace TaskQuery.Console

/-- The emojis whose names start with no letter from `a` to `z`. -/
def shortcodesSigns : List (String × String) := [
  ("+1", "👍"), ("-1", "👎"), ("100", "💯"), ("1234", "🔢"), ("1st_place_medal", "🥇"),
  ("2nd_place_medal", "🥈"), ("3rd_place_medal", "🥉"), ("8ball", "🎱"), ("__1", "👎"),
  ("åland_islands", "🇦🇽")]

end TaskQuery.Console
