/-!
# Shortcodes from `a` to `c`

Names of emojis and the emojis they stand for.
-/

namespace TaskQuery.Console

def shortcodesAToC : List (String × String) := [
  ("a", "🅰"), ("a_button_(blood_type)", "🅰"), ("ab", "🆎"), ("ab_button_(blood_type)", "🆎"),
  ("abacus", "🧮"), ("abc", "🔤"), ("abcd", "🔡"), ("accept", "🉑"), ("adhesive_bandage", "🩹"),
  ("admission_tickets", "🎟"), ("adult", "🧑"), ("adult_dark_skin_tone", "🧑🏿"),
  ("adult_light_skin_tone", "🧑🏻"), ("adult_medium-dark_skin_tone", "🧑🏾"),
  ("adult_medium-light_skin_tone", "🧑🏼"), ("adult_medium_skin_tone", "🧑🏽"),
  ("aerial_tramway", "🚡"), ("afghanistan", "🇦🇫"), ("airplane", "✈"), ("airplane_arrival", "🛬"),
  ("airplane_arriving", "🛬"), ("airplane_departure", "🛫"), ("alarm_clock", "⏰"),
  ("albania", "🇦🇱"), ("alembic", "⚗"), ("algeria", "🇩🇿"), ("alien", "👽"), ("alien_monster", "👾"),
  ("ambulance", "🚑"), ("american_football", "🏈"), ("american_samoa", "🇦🇸"), ("amphora", "🏺"),
  ("anchor", "⚓"), ("andorra", "🇦🇩"), ("angel", "👼"), ("anger", "💢"), ("anger_symbol", "💢"),
  ("angola", "🇦🇴"), ("angry", "😠"), ("angry_face", "😠"), ("angry_face_with_horns", "👿"),
  ("anguilla", "🇦🇮"), ("anguished", "😧"), ("anguished_face", "😧"), ("ant", "🐜"),
  ("antarctica", "🇦🇶"), ("antenna_bars", "📶"), ("antigua_&_barbuda", "🇦🇬"),
  ("anxious_face_with_sweat", "😰"), ("apple", "🍎"), ("aquarius", "♒"), ("argentina", "🇦🇷"),
  ("aries", "♈"), ("armenia", "🇦🇲"), ("arrow_backward", "◀"), ("arrow_double_down", "⏬"),
  ("arrow_double_up", "⏫"), ("arrow_down", "⬇"), ("arrow_down_small", "🔽"),
  ("arrow_forward", "▶"), ("arrow_heading_down", "⤵"), ("arrow_heading_up", "⤴"),
  ("arrow_left", "⬅"), ("arrow_lower_left", "↙"), ("arrow_lower_right", "↘"),
  ("arrow_right", "➡"), ("arrow_right_hook", "↪"), ("arrow_up", "⬆"), ("arrow_up_down", "↕"),
  ("arrow_up_small", "🔼"), ("arrow_upper_left", "↖"), ("arrow_upper_right", "↗"),
  ("arrows_clockwise", "🔃"), ("arrows_counterclockwise", "🔄"), ("art", "🎨"),
  ("articulated_lorry", "🚛"), ("artist_palette", "🎨"), ("aruba", "🇦🇼"),
  ("ascension_island", "🇦🇨"), ("astonished", "😲"), ("astonished_face", "😲"),
  ("athletic_shoe", "👟"), ("atm", "🏧"), ("atm_sign", "🏧"), ("atom_symbol", "⚛"),
  ("australia", "🇦🇺"), ("austria", "🇦🇹"), ("auto_rickshaw", "🛺"), ("automobile", "🚗"),
  ("avocado", "🥑"), ("axe", "🪓"), ("azerbaijan", "🇦🇿"), ("b", "🅱"),
  ("b_button_(blood_type)", "🅱"), ("baby", "👶"), ("baby_angel", "👼"),
  ("baby_angel_dark_skin_tone", "👼🏿"), ("baby_angel_light_skin_tone", "👼🏻"),
  ("baby_angel_medium-dark_skin_tone", "👼🏾"), ("baby_angel_medium-light_skin_tone", "👼🏼"),
  ("baby_angel_medium_skin_tone", "👼🏽"), ("baby_bottle", "🍼"), ("baby_chick", "🐤"),
  ("baby_dark_skin_tone", "👶🏿"), ("baby_light_skin_tone", "👶🏻"),
  ("baby_medium-dark_skin_tone", "👶🏾"), ("baby_medium-light_skin_tone", "👶🏼"),
  ("baby_medium_skin_tone", "👶🏽"), ("baby_symbol", "🚼"), ("back", "🔙"), ("back_arrow", "🔙"),
  ("backhand_index_pointing_down", "👇"), ("backhand_index_pointing_down_dark_skin_tone", "👇🏿"),
  ("backhand_index_pointing_down_light_skin_tone", "👇🏻"),
  ("backhand_index_pointing_down_medium-dark_skin_tone", "👇🏾"),
  ("backhand_index_pointing_down_medium-light_skin_tone", "👇🏼"),
  ("backhand_index_pointing_down_medium_skin_tone", "👇🏽"), ("backhand_index_pointing_left", "👈"),
  ("backhand_index_pointing_left_dark_skin_tone", "👈🏿"),
  ("backhand_index_pointing_left_light_skin_tone", "👈🏻"),
  ("backhand_index_pointing_left_medium-dark_skin_tone", "👈🏾"),
  ("backhand_index_pointing_left_medium-light_skin_tone", "👈🏼"),
  ("backhand_index_pointing_left_medium_skin_tone", "👈🏽"), ("backhand_index_pointing_right", "👉"),
  ("backhand_index_pointing_right_dark_skin_tone", "👉🏿"),
  ("backhand_index_pointing_right_light_skin_tone", "👉🏻"),
  ("backhand_index_pointing_right_medium-dark_skin_tone", "👉🏾"),
  ("backhand_index_pointing_right_medium-light_skin_tone", "👉🏼"),
  ("backhand_index_pointing_right_medium_skin_tone", "👉🏽"), ("backhand_index_pointing_up", "👆"),
  ("backhand_index_pointing_up_dark_skin_tone", "👆🏿"),
  ("backhand_index_pointing_up_light_skin_tone", "👆🏻"),
  ("backhand_index_pointing_up_medium-dark_skin_tone", "👆🏾"),
  ("backhand_index_pointing_up_medium-light_skin_tone", "👆🏼"),
  ("backhand_index_pointing_up_medium_skin_tone", "👆🏽"), ("bacon", "🥓"), ("badger", "🦡"),
  ("badminton", "🏸"), ("badminton_racquet_and_shuttlecock", "🏸"), ("bagel", "🥯"),
  ("baggage_claim", "🛄"), ("baguette_bread", "🥖"), ("bahamas", "🇧🇸"), ("bahrain", "🇧🇭"),
  ("balance_scale", "⚖"), ("bald", "🦲"), ("bald_man", "👨‍🦲"), ("bald_woman", "👩‍🦲"),
  ("ballet_shoes", "🩰"), ("balloon", "🎈"), ("ballot_box_with_ballot", "🗳"),
  ("ballot_box_with_check", "☑"), ("bamboo", "🎍"), ("banana", "🍌"), ("bangbang", "‼"),
  ("bangladesh", "🇧🇩"), ("banjo", "🪕"), ("bank", "🏦"), ("bar_chart", "📊"), ("barbados", "🇧🇧"),
  ("barber", "💈"), ("barber_pole", "💈"), ("baseball", "⚾"), ("basket", "🧺"), ("basketball", "🏀"),
  ("bat", "🦇"), ("bath", "🛀"), ("bathtub", "🛁"), ("battery", "🔋"), ("beach_with_umbrella", "🏖"),
  ("beaming_face_with_smiling_eyes", "😁"), ("bear", "🐻"), ("bear_face", "🐻"),
  ("bearded_person", "🧔"), ("bearded_person_dark_skin_tone", "🧔🏿"),
  ("bearded_person_light_skin_tone", "🧔🏻"), ("bearded_person_medium-dark_skin_tone", "🧔🏾"),
  ("bearded_person_medium-light_skin_tone", "🧔🏼"), ("bearded_person_medium_skin_tone", "🧔🏽"),
  ("beating_heart", "💓"), ("bed", "🛏"), ("bee", "🐝"), ("beer", "🍺"), ("beer_mug", "🍺"),
  ("beers", "🍻"), ("beetle", "🐞"), ("beginner", "🔰"), ("belarus", "🇧🇾"), ("belgium", "🇧🇪"),
  ("belize", "🇧🇿"), ("bell", "🔔"), ("bell_with_slash", "🔕"), ("bellhop_bell", "🛎"),
  ("benin", "🇧🇯"), ("bento", "🍱"), ("bento_box", "🍱"), ("bermuda", "🇧🇲"), ("beverage_box", "🧃"),
  ("bhutan", "🇧🇹"), ("bicycle", "🚲"), ("bicyclist", "🚴"), ("bike", "🚲"), ("bikini", "👙"),
  ("billed_cap", "🧢"), ("biohazard", "☣"), ("biohazard_sign", "☣"), ("bird", "🐦"),
  ("birthday", "🎂"), ("birthday_cake", "🎂"), ("black_circle", "⚫"),
  ("black_circle_for_record", "⏺"), ("black_flag", "🏴"), ("black_heart", "🖤"),
  ("black_joker", "🃏"), ("black_large_square", "⬛"),
  ("black_left__pointing_double_triangle_with_vertical_bar", "⏮"),
  ("black_medium-small_square", "◾"), ("black_medium_small_square", "◾"),
  ("black_medium_square", "◼"), ("black_nib", "✒"),
  ("black_right__pointing_double_triangle_with_vertical_bar", "⏭"),
  ("black_right__pointing_triangle_with_double_vertical_bar", "⏯"), ("black_small_square", "▪"),
  ("black_square_button", "🔲"), ("black_square_for_stop", "⏹"), ("blond-haired_man", "👱‍♂️"),
  ("blond-haired_man_dark_skin_tone", "👱🏿‍♂️"), ("blond-haired_man_light_skin_tone", "👱🏻‍♂️"),
  ("blond-haired_man_medium-dark_skin_tone", "👱🏾‍♂️"),
  ("blond-haired_man_medium-light_skin_tone", "👱🏼‍♂️"),
  ("blond-haired_man_medium_skin_tone", "👱🏽‍♂️"), ("blond-haired_person", "👱"),
  ("blond-haired_person_dark_skin_tone", "👱🏿"), ("blond-haired_person_light_skin_tone", "👱🏻"),
  ("blond-haired_person_medium-dark_skin_tone", "👱🏾"),
  ("blond-haired_person_medium-light_skin_tone", "👱🏼"),
  ("blond-haired_person_medium_skin_tone", "👱🏽"), ("blond-haired_woman", "👱‍♀️"),
  ("blond-haired_woman_dark_skin_tone", "👱🏿‍♀️"), ("blond-haired_woman_light_skin_tone", "👱🏻‍♀️"),
  ("blond-haired_woman_medium-dark_skin_tone", "👱🏾‍♀️"),
  ("blond-haired_woman_medium-light_skin_tone", "👱🏼‍♀️"),
  ("blond-haired_woman_medium_skin_tone", "👱🏽‍♀️"), ("blossom", "🌼"), ("blowfish", "🐡"),
  ("blue_book", "📘"), ("blue_car", "🚙"), ("blue_circle", "🔵"), ("blue_heart", "💙"),
  ("blue_square", "🟦"), ("blush", "😊"), ("boar", "🐗"), ("boat", "⛵"), ("bolivia", "🇧🇴"),
  ("bomb", "💣"), ("bone", "🦴"), ("book", "📖"), ("bookmark", "🔖"), ("bookmark_tabs", "📑"),
  ("books", "📚"), ("boom", "💥"), ("boot", "👢"), ("bosnia_&_herzegovina", "🇧🇦"),
  ("botswana", "🇧🇼"), ("bottle_with_popping_cork", "🍾"), ("bouquet", "💐"),
  ("bouvet_island", "🇧🇻"), ("bow", "🙇"), ("bow_and_arrow", "🏹"), ("bowl_with_spoon", "🥣"),
  ("bowling", "🎳"), ("boxing_glove", "🥊"), ("boy", "👦"), ("boy_dark_skin_tone", "👦🏿"),
  ("boy_light_skin_tone", "👦🏻"), ("boy_medium-dark_skin_tone", "👦🏾"),
  ("boy_medium-light_skin_tone", "👦🏼"), ("boy_medium_skin_tone", "👦🏽"), ("brain", "🧠"),
  ("brazil", "🇧🇷"), ("bread", "🍞"), ("breast-feeding", "🤱"),
  ("breast-feeding_dark_skin_tone", "🤱🏿"), ("breast-feeding_light_skin_tone", "🤱🏻"),
  ("breast-feeding_medium-dark_skin_tone", "🤱🏾"), ("breast-feeding_medium-light_skin_tone", "🤱🏼"),
  ("breast-feeding_medium_skin_tone", "🤱🏽"), ("brick", "🧱"), ("bride_with_veil", "👰"),
  ("bride_with_veil_dark_skin_tone", "👰🏿"), ("bride_with_veil_light_skin_tone", "👰🏻"),
  ("bride_with_veil_medium-dark_skin_tone", "👰🏾"),
  ("bride_with_veil_medium-light_skin_tone", "👰🏼"), ("bride_with_veil_medium_skin_tone", "👰🏽"),
  ("bridge_at_night", "🌉"), ("briefcase", "💼"), ("briefs", "🩲"), ("bright_button", "🔆"),
  ("british_indian_ocean_territory", "🇮🇴"), ("british_virgin_islands", "🇻🇬"), ("broccoli", "🥦"),
  ("broken_heart", "💔"), ("broom", "🧹"), ("brown_circle", "🟤"), ("brown_heart", "🤎"),
  ("brown_square", "🟫"), ("brunei", "🇧🇳"), ("bug", "🐛"), ("building_construction", "🏗"),
  ("bulb", "💡"), ("bulgaria", "🇧🇬"), ("bullet_train", "🚅"), ("bullettrain_front", "🚅"),
  ("bullettrain_side", "🚄"), ("burkina_faso", "🇧🇫"), ("burrito", "🌯"), ("burundi", "🇧🇮"),
  ("bus", "🚌"), ("bus_stop", "🚏"), ("busstop", "🚏"), ("bust_in_silhouette", "👤"),
  ("busts_in_silhouette", "👥"), ("butter", "🧈"), ("butterfly", "🦋"), ("cactus", "🌵"),
  ("cake", "🍰"), ("calendar", "📆"), ("call_me_hand", "🤙"), ("call_me_hand_dark_skin_tone", "🤙🏿"),
  ("call_me_hand_light_skin_tone", "🤙🏻"), ("call_me_hand_medium-dark_skin_tone", "🤙🏾"),
  ("call_me_hand_medium-light_skin_tone", "🤙🏼"), ("call_me_hand_medium_skin_tone", "🤙🏽"),
  ("calling", "📲"), ("cambodia", "🇰🇭"), ("camel", "🐫"), ("camera", "📷"),
  ("camera_with_flash", "📸"), ("cameroon", "🇨🇲"), ("camping", "🏕"), ("canada", "🇨🇦"),
  ("canary_islands", "🇮🇨"), ("cancer", "♋"), ("candle", "🕯"), ("candy", "🍬"),
  ("canned_food", "🥫"), ("canoe", "🛶"), ("cape_verde", "🇨🇻"), ("capital_abcd", "🔠"),
  ("capricorn", "♑"), ("car", "🚗"), ("card_file_box", "🗃"), ("card_index", "📇"),
  ("card_index_dividers", "🗂"), ("caribbean_netherlands", "🇧🇶"), ("carousel_horse", "🎠"),
  ("carp_streamer", "🎏"), ("carrot", "🥕"), ("castle", "🏰"), ("cat", "🐱"), ("cat2", "🐈"),
  ("cat_face", "🐱"), ("cat_face_with_tears_of_joy", "😹"), ("cat_face_with_wry_smile", "😼"),
  ("cayman_islands", "🇰🇾"), ("cd", "💿"), ("central_african_republic", "🇨🇫"),
  ("ceuta_&_melilla", "🇪🇦"), ("chad", "🇹🇩"), ("chains", "⛓"), ("chair", "🪑"), ("chart", "💹"),
  ("chart_decreasing", "📉"), ("chart_increasing", "📈"), ("chart_increasing_with_yen", "💹"),
  ("chart_with_downwards_trend", "📉"), ("chart_with_upwards_trend", "📈"), ("checkered_flag", "🏁"),
  ("cheese_wedge", "🧀"), ("chequered_flag", "🏁"), ("cherries", "🍒"), ("cherry_blossom", "🌸"),
  ("chess_pawn", "♟"), ("chestnut", "🌰"), ("chicken", "🐔"), ("child", "🧒"),
  ("child_dark_skin_tone", "🧒🏿"), ("child_light_skin_tone", "🧒🏻"),
  ("child_medium-dark_skin_tone", "🧒🏾"), ("child_medium-light_skin_tone", "🧒🏼"),
  ("child_medium_skin_tone", "🧒🏽"), ("children_crossing", "🚸"), ("chile", "🇨🇱"), ("china", "🇨🇳"),
  ("chipmunk", "🐿"), ("chocolate_bar", "🍫"), ("chopsticks", "🥢"), ("christmas_island", "🇨🇽"),
  ("christmas_tree", "🎄"), ("church", "⛪"), ("cigarette", "🚬"), ("cinema", "🎦"),
  ("circled_m", "Ⓜ"), ("circus_tent", "🎪"), ("city_sunrise", "🌇"), ("city_sunset", "🌆"),
  ("cityscape", "🏙"), ("cityscape_at_dusk", "🌆"), ("cl", "🆑"), ("cl_button", "🆑"), ("clamp", "🗜"),
  ("clap", "👏"), ("clapper", "🎬"), ("clapper_board", "🎬"), ("clapping_hands", "👏"),
  ("clapping_hands_dark_skin_tone", "👏🏿"), ("clapping_hands_light_skin_tone", "👏🏻"),
  ("clapping_hands_medium-dark_skin_tone", "👏🏾"), ("clapping_hands_medium-light_skin_tone", "👏🏼"),
  ("clapping_hands_medium_skin_tone", "👏🏽"), ("classical_building", "🏛"),
  ("clinking_beer_mugs", "🍻"), ("clinking_glasses", "🥂"), ("clipboard", "📋"),
  ("clipperton_island", "🇨🇵"), ("clock1", "🕐"), ("clock10", "🕙"), ("clock1030", "🕥"),
  ("clock11", "🕚"), ("clock1130", "🕦"), ("clock12", "🕛"), ("clock1230", "🕧"), ("clock130", "🕜"),
  ("clock2", "🕑"), ("clock230", "🕝"), ("clock3", "🕒"), ("clock330", "🕞"), ("clock4", "🕓"),
  ("clock430", "🕟"), ("clock5", "🕔"), ("clock530", "🕠"), ("clock6", "🕕"), ("clock630", "🕡"),
  ("clock7", "🕖"), ("clock730", "🕢"), ("clock8", "🕗"), ("clock830", "🕣"), ("clock9", "🕘"),
  ("clock930", "🕤"), ("clockwise_vertical_arrows", "🔃"), ("closed_book", "📕"),
  ("closed_lock_with_key", "🔐"), ("closed_mailbox_with_lowered_flag", "📪"),
  ("closed_mailbox_with_raised_flag", "📫"), ("closed_umbrella", "🌂"), ("cloud", "☁"),
  ("cloud_with_lightning", "🌩"), ("cloud_with_lightning_and_rain", "⛈"), ("cloud_with_rain", "🌧"),
  ("cloud_with_snow", "🌨"), ("cloud_with_tornado", "🌪"), ("clown_face", "🤡"), ("club_suit", "♣"),
  ("clubs", "♣"), ("clutch_bag", "👝"), ("coat", "🧥"), ("cocktail", "🍸"), ("cocktail_glass", "🍸"),
  ("coconut", "🥥"), ("cocos_(keeling)_islands", "🇨🇨"), ("coffee", "☕"), ("coffin", "⚰"),
  ("cold_face", "🥶"), ("cold_sweat", "😰"), ("collision", "💥"), ("colombia", "🇨🇴"), ("comet", "☄"),
  ("comoros", "🇰🇲"), ("compass", "🧭"), ("compression", "🗜"), ("computer", "💻"),
  ("computer_disk", "💽"), ("computer_mouse", "🖱"), ("confetti_ball", "🎊"), ("confounded", "😖"),
  ("confounded_face", "😖"), ("confused", "😕"), ("confused_face", "😕"),
  ("congo_-_brazzaville", "🇨🇬"), ("congo_-_kinshasa", "🇨🇩"), ("congratulations", "㊗"),
  ("construction", "🚧"), ("construction_worker", "👷"),
  ("construction_worker_dark_skin_tone", "👷🏿"), ("construction_worker_light_skin_tone", "👷🏻"),
  ("construction_worker_medium-dark_skin_tone", "👷🏾"),
  ("construction_worker_medium-light_skin_tone", "👷🏼"),
  ("construction_worker_medium_skin_tone", "👷🏽"), ("control_knobs", "🎛"),
  ("convenience_store", "🏪"), ("cook_islands", "🇨🇰"), ("cooked_rice", "🍚"), ("cookie", "🍪"),
  ("cooking", "🍳"), ("cool", "🆒"), ("cool_button", "🆒"), ("cop", "👮"), ("copyright", "©"),
  ("corn", "🌽"), ("costa_rica", "🇨🇷"), ("couch_and_lamp", "🛋"),
  ("counterclockwise_arrows_button", "🔄"), ("couple", "👫"), ("couple_with_heart", "💑"),
  ("couple_with_heart_man_man", "👨‍❤️‍👨"), ("couple_with_heart_woman_man", "👩‍❤️‍👨"),
  ("couple_with_heart_woman_woman", "👩‍❤️‍👩"), ("couplekiss", "💏"), ("cow", "🐮"), ("cow2", "🐄"),
  ("cow_face", "🐮"), ("cowboy_hat_face", "🤠"), ("crab", "🦀"), ("crayon", "🖍"),
  ("credit_card", "💳"), ("crescent_moon", "🌙"), ("cricket", "🦗"), ("cricket_bat_and_ball", "🏏"),
  ("cricket_game", "🏏"), ("croatia", "🇭🇷"), ("crocodile", "🐊"), ("croissant", "🥐"),
  ("cross_mark", "❌"), ("cross_mark_button", "❎"), ("crossed_fingers", "🤞"),
  ("crossed_fingers_dark_skin_tone", "🤞🏿"), ("crossed_fingers_light_skin_tone", "🤞🏻"),
  ("crossed_fingers_medium-dark_skin_tone", "🤞🏾"),
  ("crossed_fingers_medium-light_skin_tone", "🤞🏼"), ("crossed_fingers_medium_skin_tone", "🤞🏽"),
  ("crossed_flags", "🎌"), ("crossed_swords", "⚔"), ("crown", "👑"), ("cry", "😢"),
  ("crying_cat_face", "😿"), ("crying_face", "😢"), ("crystal_ball", "🔮"), ("cuba", "🇨🇺"),
  ("cucumber", "🥒"), ("cup_with_straw", "🥤"), ("cupcake", "🧁"), ("cupid", "💘"), ("curaçao", "🇨🇼"),
  ("curling_stone", "🥌"), ("curly-haired_man", "👨‍🦱"), ("curly-haired_woman", "👩‍🦱"),
  ("curly_hair", "🦱"), ("curly_loop", "➰"), ("currency_exchange", "💱"), ("curry", "🍛"),
  ("curry_rice", "🍛"), ("custard", "🍮"), ("customs", "🛃"), ("cut_of_meat", "🥩"), ("cyclone", "🌀"),
  ("cyprus", "🇨🇾"), ("czechia", "🇨🇿"), ("côte_d’ivoire", "🇨🇮")]

end TaskQuery.Console
