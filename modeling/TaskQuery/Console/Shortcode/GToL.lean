/-!
# Shortcodes from `g` to `l`

Names of emojis and the emojis they stand for.
-/

namespace TaskQuery.Console

def shortcodesGToL : List (String × String) := [
  ("gabon", "🇬🇦"), ("gambia", "🇬🇲"), ("game_die", "🎲"), ("garlic", "🧄"), ("gear", "⚙"),
  ("gem", "💎"), ("gem_stone", "💎"), ("gemini", "♊"), ("genie", "🧞"), ("georgia", "🇬🇪"),
  ("germany", "🇩🇪"), ("ghana", "🇬🇭"), ("ghost", "👻"), ("gibraltar", "🇬🇮"), ("gift", "🎁"),
  ("gift_heart", "💝"), ("giraffe", "🦒"), ("girl", "👧"), ("girl_dark_skin_tone", "👧🏿"),
  ("girl_light_skin_tone", "👧🏻"), ("girl_medium-dark_skin_tone", "👧🏾"),
  ("girl_medium-light_skin_tone", "👧🏼"), ("girl_medium_skin_tone", "👧🏽"), ("glass_of_milk", "🥛"),
  ("glasses", "👓"), ("globe_showing_americas", "🌎"), ("globe_showing_asia-australia", "🌏"),
  ("globe_showing_europe-africa", "🌍"), ("globe_with_meridians", "🌐"), ("gloves", "🧤"),
  ("glowing_star", "🌟"), ("goal_net", "🥅"), ("goat", "🐐"), ("goblin", "👺"), ("goggles", "🥽"),
  ("golf", "⛳"), ("golfer", "🏌"), ("gorilla", "🦍"), ("graduation_cap", "🎓"), ("grapes", "🍇"),
  ("greece", "🇬🇷"), ("green_apple", "🍏"), ("green_book", "📗"), ("green_circle", "🟢"),
  ("green_heart", "💚"), ("green_salad", "🥗"), ("green_square", "🟩"), ("greenland", "🇬🇱"),
  ("grenada", "🇬🇩"), ("grey_exclamation", "❕"), ("grey_question", "❔"), ("grimacing", "😬"),
  ("grimacing_face", "😬"), ("grin", "😁"), ("grinning", "😀"), ("grinning_cat_face", "😺"),
  ("grinning_cat_face_with_smiling_eyes", "😸"), ("grinning_face", "😀"),
  ("grinning_face_with_big_eyes", "😃"), ("grinning_face_with_smiling_eyes", "😄"),
  ("grinning_face_with_sweat", "😅"), ("grinning_squinting_face", "😆"), ("growing_heart", "💗"),
  ("guadeloupe", "🇬🇵"), ("guam", "🇬🇺"), ("guard", "💂"), ("guard_dark_skin_tone", "💂🏿"),
  ("guard_light_skin_tone", "💂🏻"), ("guard_medium-dark_skin_tone", "💂🏾"),
  ("guard_medium-light_skin_tone", "💂🏼"), ("guard_medium_skin_tone", "💂🏽"), ("guardsman", "💂"),
  ("guatemala", "🇬🇹"), ("guernsey", "🇬🇬"), ("guide_dog", "🦮"), ("guinea", "🇬🇳"),
  ("guinea-bissau", "🇬🇼"), ("guitar", "🎸"), ("gun", "🔫"), ("guyana", "🇬🇾"), ("haircut", "💇"),
  ("haiti", "🇭🇹"), ("hamburger", "🍔"), ("hammer", "🔨"), ("hammer_and_pick", "⚒"),
  ("hammer_and_wrench", "🛠"), ("hamster", "🐹"), ("hamster_face", "🐹"), ("hand", "✋"),
  ("hand_with_fingers_splayed", "🖐"), ("hand_with_fingers_splayed_dark_skin_tone", "🖐🏿"),
  ("hand_with_fingers_splayed_light_skin_tone", "🖐🏻"),
  ("hand_with_fingers_splayed_medium-dark_skin_tone", "🖐🏾"),
  ("hand_with_fingers_splayed_medium-light_skin_tone", "🖐🏼"),
  ("hand_with_fingers_splayed_medium_skin_tone", "🖐🏽"), ("handbag", "👜"), ("handshake", "🤝"),
  ("hankey", "💩"), ("hatched_chick", "🐥"), ("hatching_chick", "🐣"), ("headphone", "🎧"),
  ("headphones", "🎧"), ("hear-no-evil_monkey", "🙉"), ("hear_no_evil", "🙉"),
  ("heard_&_mcdonald_islands", "🇭🇲"), ("heart", "❤"), ("heart_decoration", "💟"),
  ("heart_eyes", "😍"), ("heart_eyes_cat", "😻"), ("heart_suit", "♥"), ("heart_with_arrow", "💘"),
  ("heart_with_ribbon", "💝"), ("heartbeat", "💓"), ("heartpulse", "💗"), ("hearts", "♥"),
  ("heavy_check_mark", "✔"), ("heavy_division_sign", "➗"), ("heavy_dollar_sign", "💲"),
  ("heavy_exclamation_mark", "❗"), ("heavy_heart_exclamation", "❣"),
  ("heavy_heart_exclamation_mark_ornament", "❣"), ("heavy_large_circle", "⭕"),
  ("heavy_minus_sign", "➖"), ("heavy_multiplication_x", "✖"), ("heavy_plus_sign", "➕"),
  ("hedgehog", "🦔"), ("helicopter", "🚁"), ("helm_symbol", "⎈"), ("helmet_with_white_cross", "⛑"),
  ("herb", "🌿"), ("hibiscus", "🌺"), ("high-heeled_shoe", "👠"), ("high-speed_train", "🚄"),
  ("high_brightness", "🔆"), ("high_heel", "👠"), ("high_voltage", "⚡"), ("hiking_boot", "🥾"),
  ("hindu_temple", "🛕"), ("hippopotamus", "🦛"), ("hocho", "🔪"), ("hole", "🕳"), ("honduras", "🇭🇳"),
  ("honey_pot", "🍯"), ("honeybee", "🐝"), ("hong_kong_sar_china", "🇭🇰"),
  ("horizontal_traffic_light", "🚥"), ("horse", "🐴"), ("horse_face", "🐴"), ("horse_racing", "🏇"),
  ("horse_racing_dark_skin_tone", "🏇🏿"), ("horse_racing_light_skin_tone", "🏇🏻"),
  ("horse_racing_medium-dark_skin_tone", "🏇🏾"), ("horse_racing_medium-light_skin_tone", "🏇🏼"),
  ("horse_racing_medium_skin_tone", "🏇🏽"), ("hospital", "🏥"), ("hot_beverage", "☕"),
  ("hot_dog", "🌭"), ("hot_face", "🥵"), ("hot_pepper", "🌶"), ("hot_springs", "♨"), ("hotel", "🏨"),
  ("hotsprings", "♨"), ("hourglass", "⌛"), ("hourglass_done", "⌛"),
  ("hourglass_flowing_sand", "⏳"), ("hourglass_not_done", "⏳"), ("house", "🏠"),
  ("house_buildings", "🏘"), ("house_with_garden", "🏡"), ("houses", "🏘"), ("hugging_face", "🤗"),
  ("hundred_points", "💯"), ("hungary", "🇭🇺"), ("hushed", "😯"), ("hushed_face", "😯"), ("ice", "🧊"),
  ("ice_cream", "🍨"), ("ice_hockey", "🏒"), ("ice_hockey_stick_and_puck", "🏒"), ("ice_skate", "⛸"),
  ("icecream", "🍦"), ("iceland", "🇮🇸"), ("id", "🆔"), ("id_button", "🆔"),
  ("ideograph_advantage", "🉐"), ("imp", "👿"), ("inbox_tray", "📥"), ("incoming_envelope", "📨"),
  ("index_pointing_up", "☝"), ("index_pointing_up_dark_skin_tone", "☝🏿"),
  ("index_pointing_up_light_skin_tone", "☝🏻"), ("index_pointing_up_medium-dark_skin_tone", "☝🏾"),
  ("index_pointing_up_medium-light_skin_tone", "☝🏼"),
  ("index_pointing_up_medium_skin_tone", "☝🏽"), ("india", "🇮🇳"), ("indonesia", "🇮🇩"),
  ("infinity", "♾"), ("information", "ℹ"), ("information_desk_person", "💁"),
  ("information_source", "ℹ"), ("innocent", "😇"), ("input_latin_letters", "🔤"),
  ("input_latin_lowercase", "🔡"), ("input_latin_uppercase", "🔠"), ("input_numbers", "🔢"),
  ("input_symbols", "🔣"), ("interrobang", "⁉"), ("iphone", "📱"), ("iran", "🇮🇷"), ("iraq", "🇮🇶"),
  ("ireland", "🇮🇪"), ("isle_of_man", "🇮🇲"), ("israel", "🇮🇱"), ("italy", "🇮🇹"),
  ("izakaya_lantern", "🏮"), ("jack-o-lantern", "🎃"), ("jack_o_lantern", "🎃"), ("jamaica", "🇯🇲"),
  ("japan", "🗾"), ("japanese_acceptable_button", "🉑"), ("japanese_application_button", "🈸"),
  ("japanese_bargain_button", "🉐"), ("japanese_castle", "🏯"),
  ("japanese_congratulations_button", "㊗"), ("japanese_discount_button", "🈹"),
  ("japanese_dolls", "🎎"), ("japanese_free_of_charge_button", "🈚"), ("japanese_goblin", "👺"),
  ("japanese_here_button", "🈁"), ("japanese_monthly_amount_button", "🈷"),
  ("japanese_no_vacancy_button", "🈵"), ("japanese_not_free_of_charge_button", "🈶"),
  ("japanese_ogre", "👹"), ("japanese_open_for_business_button", "🈺"),
  ("japanese_passing_grade_button", "🈴"), ("japanese_post_office", "🏣"),
  ("japanese_prohibited_button", "🈲"), ("japanese_reserved_button", "🈯"),
  ("japanese_secret_button", "㊙"), ("japanese_service_charge_button", "🈂"),
  ("japanese_symbol_for_beginner", "🔰"), ("japanese_vacancy_button", "🈳"), ("jeans", "👖"),
  ("jersey", "🇯🇪"), ("jigsaw", "🧩"), ("joker", "🃏"), ("jordan", "🇯🇴"), ("joy", "😂"),
  ("joy_cat", "😹"), ("joystick", "🕹"), ("kaaba", "🕋"), ("kangaroo", "🦘"), ("kazakhstan", "🇰🇿"),
  ("kenya", "🇰🇪"), ("key", "🔑"), ("keyboard", "⌨"), ("keycap_#", "#️⃣"), ("keycap_*", "*️⃣"),
  ("keycap_0", "0️⃣"), ("keycap_1", "1️⃣"), ("keycap_10", "🔟"), ("keycap_2", "2️⃣"),
  ("keycap_3", "3️⃣"), ("keycap_4", "4️⃣"), ("keycap_5", "5️⃣"), ("keycap_6", "6️⃣"),
  ("keycap_7", "7️⃣"), ("keycap_8", "8️⃣"), ("keycap_9", "9️⃣"), ("keycap_asterisk", "*⃣"),
  ("keycap_digit_eight", "8⃣"), ("keycap_digit_five", "5⃣"), ("keycap_digit_four", "4⃣"),
  ("keycap_digit_nine", "9⃣"), ("keycap_digit_one", "1⃣"), ("keycap_digit_seven", "7⃣"),
  ("keycap_digit_six", "6⃣"), ("keycap_digit_three", "3⃣"), ("keycap_digit_two", "2⃣"),
  ("keycap_digit_zero", "0⃣"), ("keycap_number_sign", "#⃣"), ("kick_scooter", "🛴"),
  ("kimono", "👘"), ("kiribati", "🇰🇮"), ("kiss", "💋"), ("kiss_man_man", "👨‍❤️‍💋‍👨"),
  ("kiss_mark", "💋"), ("kiss_woman_man", "👩‍❤️‍💋‍👨"), ("kiss_woman_woman", "👩‍❤️‍💋‍👩"),
  ("kissing", "😗"), ("kissing_cat", "😽"), ("kissing_cat_face", "😽"), ("kissing_closed_eyes", "😚"),
  ("kissing_face", "😗"), ("kissing_face_with_closed_eyes", "😚"),
  ("kissing_face_with_smiling_eyes", "😙"), ("kissing_heart", "😘"), ("kissing_smiling_eyes", "😙"),
  ("kitchen_knife", "🔪"), ("kite", "🪁"), ("kiwi_fruit", "🥝"), ("knife", "🔪"), ("koala", "🐨"),
  ("koko", "🈁"), ("kosovo", "🇽🇰"), ("kuwait", "🇰🇼"), ("kyrgyzstan", "🇰🇬"), ("lab_coat", "🥼"),
  ("label", "🏷"), ("lacrosse", "🥍"), ("lady_beetle", "🐞"), ("lantern", "🏮"), ("laos", "🇱🇦"),
  ("laptop_computer", "💻"), ("large_blue_circle", "🔵"), ("large_blue_diamond", "🔷"),
  ("large_orange_diamond", "🔶"), ("last_quarter_moon", "🌗"), ("last_quarter_moon_face", "🌜"),
  ("last_quarter_moon_with_face", "🌜"), ("last_track_button", "⏮"), ("latin_cross", "✝"),
  ("latvia", "🇱🇻"), ("laughing", "😆"), ("leaf_fluttering_in_wind", "🍃"), ("leafy_green", "🥬"),
  ("leaves", "🍃"), ("lebanon", "🇱🇧"), ("ledger", "📒"), ("left-facing_fist", "🤛"),
  ("left-facing_fist_dark_skin_tone", "🤛🏿"), ("left-facing_fist_light_skin_tone", "🤛🏻"),
  ("left-facing_fist_medium-dark_skin_tone", "🤛🏾"),
  ("left-facing_fist_medium-light_skin_tone", "🤛🏼"), ("left-facing_fist_medium_skin_tone", "🤛🏽"),
  ("left-right_arrow", "↔"), ("left_arrow", "⬅"), ("left_arrow_curving_right", "↪"),
  ("left_luggage", "🛅"), ("left_right_arrow", "↔"), ("left_speech_bubble", "🗨"),
  ("leftwards_arrow_with_hook", "↩"), ("leg", "🦵"), ("lemon", "🍋"), ("leo", "♌"),
  ("leopard", "🐆"), ("lesotho", "🇱🇸"), ("level_slider", "🎚"), ("liberia", "🇱🇷"), ("libra", "♎"),
  ("libya", "🇱🇾"), ("liechtenstein", "🇱🇮"), ("light_bulb", "💡"), ("light_rail", "🚈"),
  ("light_skin_tone", "🏻"), ("link", "🔗"), ("linked_paperclips", "🖇"), ("lion_face", "🦁"),
  ("lips", "👄"), ("lipstick", "💄"), ("lithuania", "🇱🇹"), ("litter_in_bin_sign", "🚮"),
  ("lizard", "🦎"), ("llama", "🦙"), ("lobster", "🦞"), ("lock", "🔒"), ("lock_with_ink_pen", "🔏"),
  ("locked", "🔒"), ("locked_with_key", "🔐"), ("locked_with_pen", "🔏"), ("locomotive", "🚂"),
  ("lollipop", "🍭"), ("loop", "➿"), ("lotion_bottle", "🧴"), ("loud_sound", "🔊"),
  ("loudly_crying_face", "😭"), ("loudspeaker", "📢"), ("love-you_gesture", "🤟"),
  ("love-you_gesture_dark_skin_tone", "🤟🏿"), ("love-you_gesture_light_skin_tone", "🤟🏻"),
  ("love-you_gesture_medium-dark_skin_tone", "🤟🏾"),
  ("love-you_gesture_medium-light_skin_tone", "🤟🏼"), ("love-you_gesture_medium_skin_tone", "🤟🏽"),
  ("love_hotel", "🏩"), ("love_letter", "💌"), ("low_brightness", "🔅"),
  ("lower_left_ballpoint_pen", "🖊"), ("lower_left_crayon", "🖍"), ("lower_left_fountain_pen", "🖋"),
  ("lower_left_paintbrush", "🖌"), ("luggage", "🧳"), ("luxembourg", "🇱🇺"), ("lying_face", "🤥")]

end TaskQuery.Console
