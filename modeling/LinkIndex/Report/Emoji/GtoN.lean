/-!
Names of pictures that begin with `g` up to `n`, and the characters they stand for.
-/

namespace LinkIndex.Report

def emojiG : List (String × String) :=
  [("gabon", "🇬🇦"), ("gambia", "🇬🇲"), ("game_die", "🎲"), ("garlic", "🧄"), ("gear", "\u2699"),
   ("gem", "💎"), ("gem_stone", "💎"), ("gemini", "\u264a"), ("genie", "🧞"), ("georgia", "🇬🇪"),
   ("germany", "🇩🇪"), ("ghana", "🇬🇭"), ("ghost", "👻"), ("gibraltar", "🇬🇮"), ("gift", "🎁"),
   ("gift_heart", "💝"), ("giraffe", "🦒"), ("girl", "👧"), ("girl_dark_skin_tone", "👧🏿"),
   ("girl_light_skin_tone", "👧🏻"), ("girl_medium-dark_skin_tone", "👧🏾"),
   ("girl_medium-light_skin_tone", "👧🏼"), ("girl_medium_skin_tone", "👧🏽"), ("glass_of_milk", "🥛"),
   ("glasses", "👓"), ("globe_showing_americas", "🌎"), ("globe_showing_asia-australia", "🌏"),
   ("globe_showing_europe-africa", "🌍"), ("globe_with_meridians", "🌐"), ("gloves", "🧤"),
   ("glowing_star", "🌟"), ("goal_net", "🥅"), ("goat", "🐐"), ("goblin", "👺"), ("goggles", "🥽"),
   ("golf", "\u26f3"), ("golfer", "🏌"), ("gorilla", "🦍"), ("graduation_cap", "🎓"),
   ("grapes", "🍇"), ("greece", "🇬🇷"), ("green_apple", "🍏"), ("green_book", "📗"),
   ("green_circle", "🟢"), ("green_heart", "💚"), ("green_salad", "🥗"), ("green_square", "🟩"),
   ("greenland", "🇬🇱"), ("grenada", "🇬🇩"), ("grey_exclamation", "\u2755"),
   ("grey_question", "\u2754"), ("grimacing", "😬"), ("grimacing_face", "😬"), ("grin", "😁"),
   ("grinning", "😀"), ("grinning_cat_face", "😺"), ("grinning_cat_face_with_smiling_eyes", "😸"),
   ("grinning_face", "😀"), ("grinning_face_with_big_eyes", "😃"),
   ("grinning_face_with_smiling_eyes", "😄"), ("grinning_face_with_sweat", "😅"),
   ("grinning_squinting_face", "😆"), ("growing_heart", "💗"), ("guadeloupe", "🇬🇵"), ("guam", "🇬🇺"),
   ("guard", "💂"), ("guard_dark_skin_tone", "💂🏿"), ("guard_light_skin_tone", "💂🏻"),
   ("guard_medium-dark_skin_tone", "💂🏾"), ("guard_medium-light_skin_tone", "💂🏼"),
   ("guard_medium_skin_tone", "💂🏽"), ("guardsman", "💂"), ("guatemala", "🇬🇹"), ("guernsey", "🇬🇬"),
   ("guide_dog", "🦮"), ("guinea", "🇬🇳"), ("guinea-bissau", "🇬🇼"), ("guitar", "🎸"), ("gun", "🔫"),
   ("guyana", "🇬🇾")]

def emojiH : List (String × String) :=
  [("haircut", "💇"), ("haiti", "🇭🇹"), ("hamburger", "🍔"), ("hammer", "🔨"),
   ("hammer_and_pick", "\u2692"), ("hammer_and_wrench", "🛠"), ("hamster", "🐹"),
   ("hamster_face", "🐹"), ("hand", "\u270b"), ("hand_with_fingers_splayed", "🖐"),
   ("hand_with_fingers_splayed_dark_skin_tone", "🖐🏿"),
   ("hand_with_fingers_splayed_light_skin_tone", "🖐🏻"),
   ("hand_with_fingers_splayed_medium-dark_skin_tone", "🖐🏾"),
   ("hand_with_fingers_splayed_medium-light_skin_tone", "🖐🏼"),
   ("hand_with_fingers_splayed_medium_skin_tone", "🖐🏽"), ("handbag", "👜"), ("handshake", "🤝"),
   ("hankey", "💩"), ("hatched_chick", "🐥"), ("hatching_chick", "🐣"), ("headphone", "🎧"),
   ("headphones", "🎧"), ("hear-no-evil_monkey", "🙉"), ("hear_no_evil", "🙉"),
   ("heard_&_mcdonald_islands", "🇭🇲"), ("heart", "\u2764"), ("heart_decoration", "💟"),
   ("heart_eyes", "😍"), ("heart_eyes_cat", "😻"), ("heart_suit", "\u2665"),
   ("heart_with_arrow", "💘"), ("heart_with_ribbon", "💝"), ("heartbeat", "💓"), ("heartpulse", "💗"),
   ("hearts", "\u2665"), ("heavy_check_mark", "\u2714"), ("heavy_division_sign", "\u2797"),
   ("heavy_dollar_sign", "💲"), ("heavy_exclamation_mark", "\u2757"),
   ("heavy_heart_exclamation", "\u2763"), ("heavy_heart_exclamation_mark_ornament", "\u2763"),
   ("heavy_large_circle", "\u2b55"), ("heavy_minus_sign", "\u2796"),
   ("heavy_multiplication_x", "\u2716"), ("heavy_plus_sign", "\u2795"), ("hedgehog", "🦔"),
   ("helicopter", "🚁"), ("helm_symbol", "\u2388"), ("helmet_with_white_cross", "\u26d1"),
   ("herb", "🌿"), ("hibiscus", "🌺"), ("high-heeled_shoe", "👠"), ("high-speed_train", "🚄"),
   ("high_brightness", "🔆"), ("high_heel", "👠"), ("high_voltage", "\u26a1"), ("hiking_boot", "🥾"),
   ("hindu_temple", "🛕"), ("hippopotamus", "🦛"), ("hocho", "🔪"), ("hole", "🕳"),
   ("honduras", "🇭🇳"), ("honey_pot", "🍯"), ("honeybee", "🐝"), ("hong_kong_sar_china", "🇭🇰"),
   ("horizontal_traffic_light", "🚥"), ("horse", "🐴"), ("horse_face", "🐴"), ("horse_racing", "🏇"),
   ("horse_racing_dark_skin_tone", "🏇🏿"), ("horse_racing_light_skin_tone", "🏇🏻"),
   ("horse_racing_medium-dark_skin_tone", "🏇🏾"), ("horse_racing_medium-light_skin_tone", "🏇🏼"),
   ("horse_racing_medium_skin_tone", "🏇🏽"), ("hospital", "🏥"), ("hot_beverage", "\u2615"),
   ("hot_dog", "🌭"), ("hot_face", "🥵"), ("hot_pepper", "🌶"), ("hot_springs", "\u2668"),
   ("hotel", "🏨"), ("hotsprings", "\u2668"), ("hourglass", "\u231b"),
   ("hourglass_done", "\u231b"), ("hourglass_flowing_sand", "\u23f3"),
   ("hourglass_not_done", "\u23f3"), ("house", "🏠"), ("house_buildings", "🏘"),
   ("house_with_garden", "🏡"), ("houses", "🏘"), ("hugging_face", "🤗"), ("hundred_points", "💯"),
   ("hungary", "🇭🇺"), ("hushed", "😯"), ("hushed_face", "😯")]

def emojiI : List (String × String) :=
  [("ice", "🧊"), ("ice_cream", "🍨"), ("ice_hockey", "🏒"), ("ice_hockey_stick_and_puck", "🏒"),
   ("ice_skate", "\u26f8"), ("icecream", "🍦"), ("iceland", "🇮🇸"), ("id", "🆔"), ("id_button", "🆔"),
   ("ideograph_advantage", "🉐"), ("imp", "👿"), ("inbox_tray", "📥"), ("incoming_envelope", "📨"),
   ("index_pointing_up", "\u261d"), ("index_pointing_up_dark_skin_tone", "\u261d🏿"),
   ("index_pointing_up_light_skin_tone", "\u261d🏻"),
   ("index_pointing_up_medium-dark_skin_tone", "\u261d🏾"),
   ("index_pointing_up_medium-light_skin_tone", "\u261d🏼"),
   ("index_pointing_up_medium_skin_tone", "\u261d🏽"), ("india", "🇮🇳"), ("indonesia", "🇮🇩"),
   ("infinity", "\u267e"), ("information", "\u2139"), ("information_desk_person", "💁"),
   ("information_source", "\u2139"), ("innocent", "😇"), ("input_latin_letters", "🔤"),
   ("input_latin_lowercase", "🔡"), ("input_latin_uppercase", "🔠"), ("input_numbers", "🔢"),
   ("input_symbols", "🔣"), ("interrobang", "\u2049"), ("iphone", "📱"), ("iran", "🇮🇷"),
   ("iraq", "🇮🇶"), ("ireland", "🇮🇪"), ("isle_of_man", "🇮🇲"), ("israel", "🇮🇱"), ("italy", "🇮🇹"),
   ("izakaya_lantern", "🏮")]

def emojiJ : List (String × String) :=
  [("jack-o-lantern", "🎃"), ("jack_o_lantern", "🎃"), ("jamaica", "🇯🇲"), ("japan", "🗾"),
   ("japanese_acceptable_button", "🉑"), ("japanese_application_button", "🈸"),
   ("japanese_bargain_button", "🉐"), ("japanese_castle", "🏯"),
   ("japanese_congratulations_button", "\u3297"), ("japanese_discount_button", "🈹"),
   ("japanese_dolls", "🎎"), ("japanese_free_of_charge_button", "🈚"), ("japanese_goblin", "👺"),
   ("japanese_here_button", "🈁"), ("japanese_monthly_amount_button", "🈷"),
   ("japanese_no_vacancy_button", "🈵"), ("japanese_not_free_of_charge_button", "🈶"),
   ("japanese_ogre", "👹"), ("japanese_open_for_business_button", "🈺"),
   ("japanese_passing_grade_button", "🈴"), ("japanese_post_office", "🏣"),
   ("japanese_prohibited_button", "🈲"), ("japanese_reserved_button", "🈯"),
   ("japanese_secret_button", "\u3299"), ("japanese_service_charge_button", "🈂"),
   ("japanese_symbol_for_beginner", "🔰"), ("japanese_vacancy_button", "🈳"), ("jeans", "👖"),
   ("jersey", "🇯🇪"), ("jigsaw", "🧩"), ("joker", "🃏"), ("jordan", "🇯🇴"), ("joy", "😂"),
   ("joy_cat", "😹"), ("joystick", "🕹")]

def emojiK : List (String × String) :=
  [("kaaba", "🕋"), ("kangaroo", "🦘"), ("kazakhstan", "🇰🇿"), ("kenya", "🇰🇪"), ("key", "🔑"),
   ("keyboard", "\u2328"), ("keycap_#", "#\ufe0f\u20e3"), ("keycap_*", "*\ufe0f\u20e3"),
   ("keycap_0", "0\ufe0f\u20e3"), ("keycap_1", "1\ufe0f\u20e3"), ("keycap_10", "🔟"),
   ("keycap_2", "2\ufe0f\u20e3"), ("keycap_3", "3\ufe0f\u20e3"), ("keycap_4", "4\ufe0f\u20e3"),
   ("keycap_5", "5\ufe0f\u20e3"), ("keycap_6", "6\ufe0f\u20e3"), ("keycap_7", "7\ufe0f\u20e3"),
   ("keycap_8", "8\ufe0f\u20e3"), ("keycap_9", "9\ufe0f\u20e3"), ("keycap_asterisk", "*\u20e3"),
   ("keycap_digit_eight", "8\u20e3"), ("keycap_digit_five", "5\u20e3"),
   ("keycap_digit_four", "4\u20e3"), ("keycap_digit_nine", "9\u20e3"),
   ("keycap_digit_one", "1\u20e3"), ("keycap_digit_seven", "7\u20e3"),
   ("keycap_digit_six", "6\u20e3"), ("keycap_digit_three", "3\u20e3"),
   ("keycap_digit_two", "2\u20e3"), ("keycap_digit_zero", "0\u20e3"),
   ("keycap_number_sign", "#\u20e3"), ("kick_scooter", "🛴"), ("kimono", "👘"), ("kiribati", "🇰🇮"),
   ("kiss", "💋"), ("kiss_man_man", "👨\u200d\u2764\ufe0f\u200d💋\u200d👨"), ("kiss_mark", "💋"),
   ("kiss_woman_man", "👩\u200d\u2764\ufe0f\u200d💋\u200d👨"),
   ("kiss_woman_woman", "👩\u200d\u2764\ufe0f\u200d💋\u200d👩"), ("kissing", "😗"),
   ("kissing_cat", "😽"), ("kissing_cat_face", "😽"), ("kissing_closed_eyes", "😚"),
   ("kissing_face", "😗"), ("kissing_face_with_closed_eyes", "😚"),
   ("kissing_face_with_smiling_eyes", "😙"), ("kissing_heart", "😘"), ("kissing_smiling_eyes", "😙"),
   ("kitchen_knife", "🔪"), ("kite", "🪁"), ("kiwi_fruit", "🥝"), ("knife", "🔪"), ("koala", "🐨"),
   ("koko", "🈁"), ("kosovo", "🇽🇰"), ("kuwait", "🇰🇼"), ("kyrgyzstan", "🇰🇬")]

def emojiL : List (String × String) :=
  [("lab_coat", "🥼"), ("label", "🏷"), ("lacrosse", "🥍"), ("lady_beetle", "🐞"), ("lantern", "🏮"),
   ("laos", "🇱🇦"), ("laptop_computer", "💻"), ("large_blue_circle", "🔵"),
   ("large_blue_diamond", "🔷"), ("large_orange_diamond", "🔶"), ("last_quarter_moon", "🌗"),
   ("last_quarter_moon_face", "🌜"), ("last_quarter_moon_with_face", "🌜"),
   ("last_track_button", "\u23ee"), ("latin_cross", "\u271d"), ("latvia", "🇱🇻"),
   ("laughing", "😆"), ("leaf_fluttering_in_wind", "🍃"), ("leafy_green", "🥬"), ("leaves", "🍃"),
   ("lebanon", "🇱🇧"), ("ledger", "📒"), ("left-facing_fist", "🤛"),
   ("left-facing_fist_dark_skin_tone", "🤛🏿"), ("left-facing_fist_light_skin_tone", "🤛🏻"),
   ("left-facing_fist_medium-dark_skin_tone", "🤛🏾"),
   ("left-facing_fist_medium-light_skin_tone", "🤛🏼"), ("left-facing_fist_medium_skin_tone", "🤛🏽"),
   ("left-right_arrow", "\u2194"), ("left_arrow", "\u2b05"),
   ("left_arrow_curving_right", "\u21aa"), ("left_luggage", "🛅"), ("left_right_arrow", "\u2194"),
   ("left_speech_bubble", "🗨"), ("leftwards_arrow_with_hook", "\u21a9"), ("leg", "🦵"),
   ("lemon", "🍋"), ("leo", "\u264c"), ("leopard", "🐆"), ("lesotho", "🇱🇸"), ("level_slider", "🎚"),
   ("liberia", "🇱🇷"), ("libra", "\u264e"), ("libya", "🇱🇾"), ("liechtenstein", "🇱🇮"),
   ("light_bulb", "💡"), ("light_rail", "🚈"), ("light_skin_tone", "🏻"), ("link", "🔗"),
   ("linked_paperclips", "🖇"), ("lion_face", "🦁"), ("lips", "👄"), ("lipstick", "💄"),
   ("lithuania", "🇱🇹"), ("litter_in_bin_sign", "🚮"), ("lizard", "🦎"), ("llama", "🦙"),
   ("lobster", "🦞"), ("lock", "🔒"), ("lock_with_ink_pen", "🔏"), ("locked", "🔒"),
   ("locked_with_key", "🔐"), ("locked_with_pen", "🔏"), ("locomotive", "🚂"), ("lollipop", "🍭"),
   ("loop", "\u27bf"), ("lotion_bottle", "🧴"), ("loud_sound", "🔊"), ("loudly_crying_face", "😭"),
   ("loudspeaker", "📢"), ("love-you_gesture", "🤟"), ("love-you_gesture_dark_skin_tone", "🤟🏿"),
   ("love-you_gesture_light_skin_tone", "🤟🏻"), ("love-you_gesture_medium-dark_skin_tone", "🤟🏾"),
   ("love-you_gesture_medium-light_skin_tone", "🤟🏼"), ("love-you_gesture_medium_skin_tone", "🤟🏽"),
   ("love_hotel", "🏩"), ("love_letter", "💌"), ("low_brightness", "🔅"),
   ("lower_left_ballpoint_pen", "🖊"), ("lower_left_crayon", "🖍"),
   ("lower_left_fountain_pen", "🖋"), ("lower_left_paintbrush", "🖌"), ("luggage", "🧳"),
   ("luxembourg", "🇱🇺"), ("lying_face", "🤥")]

def emojiM : List (String × String) :=
  [("m", "\u24c2"), ("macau_sar_china", "🇲🇴"), ("macedonia", "🇲🇰"), ("madagascar", "🇲🇬"),
   ("mag", "🔍"), ("mag_right", "🔎"), ("mage", "🧙"), ("mage_dark_skin_tone", "🧙🏿"),
   ("mage_light_skin_tone", "🧙🏻"), ("mage_medium-dark_skin_tone", "🧙🏾"),
   ("mage_medium-light_skin_tone", "🧙🏼"), ("mage_medium_skin_tone", "🧙🏽"), ("magnet", "🧲"),
   ("magnifying_glass_tilted_left", "🔍"), ("magnifying_glass_tilted_right", "🔎"),
   ("mahjong", "🀄"), ("mahjong_red_dragon", "🀄"), ("mailbox", "📫"), ("mailbox_closed", "📪"),
   ("mailbox_with_mail", "📬"), ("mailbox_with_no_mail", "📭"), ("malawi", "🇲🇼"),
   ("malaysia", "🇲🇾"), ("maldives", "🇲🇻"), ("male_sign", "\u2642"), ("mali", "🇲🇱"),
   ("malta", "🇲🇹"), ("man", "👨"), ("man_and_woman_holding_hands", "👫"),
   ("man_artist", "👨\u200d🎨"), ("man_artist_dark_skin_tone", "👨🏿\u200d🎨"),
   ("man_artist_light_skin_tone", "👨🏻\u200d🎨"), ("man_artist_medium-dark_skin_tone", "👨🏾\u200d🎨"),
   ("man_artist_medium-light_skin_tone", "👨🏼\u200d🎨"),
   ("man_artist_medium_skin_tone", "👨🏽\u200d🎨"), ("man_astronaut", "👨\u200d🚀"),
   ("man_astronaut_dark_skin_tone", "👨🏿\u200d🚀"), ("man_astronaut_light_skin_tone", "👨🏻\u200d🚀"),
   ("man_astronaut_medium-dark_skin_tone", "👨🏾\u200d🚀"),
   ("man_astronaut_medium-light_skin_tone", "👨🏼\u200d🚀"),
   ("man_astronaut_medium_skin_tone", "👨🏽\u200d🚀"), ("man_biking", "🚴\u200d\u2642\ufe0f"),
   ("man_biking_dark_skin_tone", "🚴🏿\u200d\u2642\ufe0f"),
   ("man_biking_light_skin_tone", "🚴🏻\u200d\u2642\ufe0f"),
   ("man_biking_medium-dark_skin_tone", "🚴🏾\u200d\u2642\ufe0f"),
   ("man_biking_medium-light_skin_tone", "🚴🏼\u200d\u2642\ufe0f"),
   ("man_biking_medium_skin_tone", "🚴🏽\u200d\u2642\ufe0f"),
   ("man_bouncing_ball", "\u26f9\ufe0f\u200d\u2642\ufe0f"),
   ("man_bouncing_ball_dark_skin_tone", "\u26f9🏿\u200d\u2642\ufe0f"),
   ("man_bouncing_ball_light_skin_tone", "\u26f9🏻\u200d\u2642\ufe0f"),
   ("man_bouncing_ball_medium-dark_skin_tone", "\u26f9🏾\u200d\u2642\ufe0f"),
   ("man_bouncing_ball_medium-light_skin_tone", "\u26f9🏼\u200d\u2642\ufe0f"),
   ("man_bouncing_ball_medium_skin_tone", "\u26f9🏽\u200d\u2642\ufe0f"),
   ("man_bowing", "🙇\u200d\u2642\ufe0f"), ("man_bowing_dark_skin_tone", "🙇🏿\u200d\u2642\ufe0f"),
   ("man_bowing_light_skin_tone", "🙇🏻\u200d\u2642\ufe0f"),
   ("man_bowing_medium-dark_skin_tone", "🙇🏾\u200d\u2642\ufe0f"),
   ("man_bowing_medium-light_skin_tone", "🙇🏼\u200d\u2642\ufe0f"),
   ("man_bowing_medium_skin_tone", "🙇🏽\u200d\u2642\ufe0f"),
   ("man_cartwheeling", "🤸\u200d\u2642\ufe0f"),
   ("man_cartwheeling_dark_skin_tone", "🤸🏿\u200d\u2642\ufe0f"),
   ("man_cartwheeling_light_skin_tone", "🤸🏻\u200d\u2642\ufe0f"),
   ("man_cartwheeling_medium-dark_skin_tone", "🤸🏾\u200d\u2642\ufe0f"),
   ("man_cartwheeling_medium-light_skin_tone", "🤸🏼\u200d\u2642\ufe0f"),
   ("man_cartwheeling_medium_skin_tone", "🤸🏽\u200d\u2642\ufe0f"),
   ("man_climbing", "🧗\u200d\u2642\ufe0f"),
   ("man_climbing_dark_skin_tone", "🧗🏿\u200d\u2642\ufe0f"),
   ("man_climbing_light_skin_tone", "🧗🏻\u200d\u2642\ufe0f"),
   ("man_climbing_medium-dark_skin_tone", "🧗🏾\u200d\u2642\ufe0f"),
   ("man_climbing_medium-light_skin_tone", "🧗🏼\u200d\u2642\ufe0f"),
   ("man_climbing_medium_skin_tone", "🧗🏽\u200d\u2642\ufe0f"),
   ("man_construction_worker", "👷\u200d\u2642\ufe0f"),
   ("man_construction_worker_dark_skin_tone", "👷🏿\u200d\u2642\ufe0f"),
   ("man_construction_worker_light_skin_tone", "👷🏻\u200d\u2642\ufe0f"),
   ("man_construction_worker_medium-dark_skin_tone", "👷🏾\u200d\u2642\ufe0f"),
   ("man_construction_worker_medium-light_skin_tone", "👷🏼\u200d\u2642\ufe0f"),
   ("man_construction_worker_medium_skin_tone", "👷🏽\u200d\u2642\ufe0f"), ("man_cook", "👨\u200d🍳"),
   ("man_cook_dark_skin_tone", "👨🏿\u200d🍳"), ("man_cook_light_skin_tone", "👨🏻\u200d🍳"),
   ("man_cook_medium-dark_skin_tone", "👨🏾\u200d🍳"),
   ("man_cook_medium-light_skin_tone", "👨🏼\u200d🍳"), ("man_cook_medium_skin_tone", "👨🏽\u200d🍳"),
   ("man_dancing", "🕺"), ("man_dancing_dark_skin_tone", "🕺🏿"),
   ("man_dancing_light_skin_tone", "🕺🏻"), ("man_dancing_medium-dark_skin_tone", "🕺🏾"),
   ("man_dancing_medium-light_skin_tone", "🕺🏼"), ("man_dancing_medium_skin_tone", "🕺🏽"),
   ("man_dark_skin_tone", "👨🏿"), ("man_detective", "🕵\ufe0f\u200d\u2642\ufe0f"),
   ("man_detective_dark_skin_tone", "🕵🏿\u200d\u2642\ufe0f"),
   ("man_detective_light_skin_tone", "🕵🏻\u200d\u2642\ufe0f"),
   ("man_detective_medium-dark_skin_tone", "🕵🏾\u200d\u2642\ufe0f"),
   ("man_detective_medium-light_skin_tone", "🕵🏼\u200d\u2642\ufe0f"),
   ("man_detective_medium_skin_tone", "🕵🏽\u200d\u2642\ufe0f"), ("man_elf", "🧝\u200d\u2642\ufe0f"),
   ("man_elf_dark_skin_tone", "🧝🏿\u200d\u2642\ufe0f"),
   ("man_elf_light_skin_tone", "🧝🏻\u200d\u2642\ufe0f"),
   ("man_elf_medium-dark_skin_tone", "🧝🏾\u200d\u2642\ufe0f"),
   ("man_elf_medium-light_skin_tone", "🧝🏼\u200d\u2642\ufe0f"),
   ("man_elf_medium_skin_tone", "🧝🏽\u200d\u2642\ufe0f"),
   ("man_facepalming", "🤦\u200d\u2642\ufe0f"),
   ("man_facepalming_dark_skin_tone", "🤦🏿\u200d\u2642\ufe0f"),
   ("man_facepalming_light_skin_tone", "🤦🏻\u200d\u2642\ufe0f"),
   ("man_facepalming_medium-dark_skin_tone", "🤦🏾\u200d\u2642\ufe0f"),
   ("man_facepalming_medium-light_skin_tone", "🤦🏼\u200d\u2642\ufe0f"),
   ("man_facepalming_medium_skin_tone", "🤦🏽\u200d\u2642\ufe0f"),
   ("man_factory_worker", "👨\u200d🏭"), ("man_factory_worker_dark_skin_tone", "👨🏿\u200d🏭"),
   ("man_factory_worker_light_skin_tone", "👨🏻\u200d🏭"),
   ("man_factory_worker_medium-dark_skin_tone", "👨🏾\u200d🏭"),
   ("man_factory_worker_medium-light_skin_tone", "👨🏼\u200d🏭"),
   ("man_factory_worker_medium_skin_tone", "👨🏽\u200d🏭"), ("man_fairy", "🧚\u200d\u2642\ufe0f"),
   ("man_fairy_dark_skin_tone", "🧚🏿\u200d\u2642\ufe0f"),
   ("man_fairy_light_skin_tone", "🧚🏻\u200d\u2642\ufe0f"),
   ("man_fairy_medium-dark_skin_tone", "🧚🏾\u200d\u2642\ufe0f"),
   ("man_fairy_medium-light_skin_tone", "🧚🏼\u200d\u2642\ufe0f"),
   ("man_fairy_medium_skin_tone", "🧚🏽\u200d\u2642\ufe0f"), ("man_farmer", "👨\u200d🌾"),
   ("man_farmer_dark_skin_tone", "👨🏿\u200d🌾"), ("man_farmer_light_skin_tone", "👨🏻\u200d🌾"),
   ("man_farmer_medium-dark_skin_tone", "👨🏾\u200d🌾"),
   ("man_farmer_medium-light_skin_tone", "👨🏼\u200d🌾"),
   ("man_farmer_medium_skin_tone", "👨🏽\u200d🌾"), ("man_firefighter", "👨\u200d🚒"),
   ("man_firefighter_dark_skin_tone", "👨🏿\u200d🚒"),
   ("man_firefighter_light_skin_tone", "👨🏻\u200d🚒"),
   ("man_firefighter_medium-dark_skin_tone", "👨🏾\u200d🚒"),
   ("man_firefighter_medium-light_skin_tone", "👨🏼\u200d🚒"),
   ("man_firefighter_medium_skin_tone", "👨🏽\u200d🚒"), ("man_frowning", "🙍\u200d\u2642\ufe0f"),
   ("man_frowning_dark_skin_tone", "🙍🏿\u200d\u2642\ufe0f"),
   ("man_frowning_light_skin_tone", "🙍🏻\u200d\u2642\ufe0f"),
   ("man_frowning_medium-dark_skin_tone", "🙍🏾\u200d\u2642\ufe0f"),
   ("man_frowning_medium-light_skin_tone", "🙍🏼\u200d\u2642\ufe0f"),
   ("man_frowning_medium_skin_tone", "🙍🏽\u200d\u2642\ufe0f"),
   ("man_genie", "🧞\u200d\u2642\ufe0f"), ("man_gesturing_no", "🙅\u200d\u2642\ufe0f"),
   ("man_gesturing_no_dark_skin_tone", "🙅🏿\u200d\u2642\ufe0f"),
   ("man_gesturing_no_light_skin_tone", "🙅🏻\u200d\u2642\ufe0f"),
   ("man_gesturing_no_medium-dark_skin_tone", "🙅🏾\u200d\u2642\ufe0f"),
   ("man_gesturing_no_medium-light_skin_tone", "🙅🏼\u200d\u2642\ufe0f"),
   ("man_gesturing_no_medium_skin_tone", "🙅🏽\u200d\u2642\ufe0f"),
   ("man_gesturing_ok", "🙆\u200d\u2642\ufe0f"),
   ("man_gesturing_ok_dark_skin_tone", "🙆🏿\u200d\u2642\ufe0f"),
   ("man_gesturing_ok_light_skin_tone", "🙆🏻\u200d\u2642\ufe0f"),
   ("man_gesturing_ok_medium-dark_skin_tone", "🙆🏾\u200d\u2642\ufe0f"),
   ("man_gesturing_ok_medium-light_skin_tone", "🙆🏼\u200d\u2642\ufe0f"),
   ("man_gesturing_ok_medium_skin_tone", "🙆🏽\u200d\u2642\ufe0f"),
   ("man_getting_haircut", "💇\u200d\u2642\ufe0f"),
   ("man_getting_haircut_dark_skin_tone", "💇🏿\u200d\u2642\ufe0f"),
   ("man_getting_haircut_light_skin_tone", "💇🏻\u200d\u2642\ufe0f"),
   ("man_getting_haircut_medium-dark_skin_tone", "💇🏾\u200d\u2642\ufe0f"),
   ("man_getting_haircut_medium-light_skin_tone", "💇🏼\u200d\u2642\ufe0f"),
   ("man_getting_haircut_medium_skin_tone", "💇🏽\u200d\u2642\ufe0f"),
   ("man_getting_massage", "💆\u200d\u2642\ufe0f"),
   ("man_getting_massage_dark_skin_tone", "💆🏿\u200d\u2642\ufe0f"),
   ("man_getting_massage_light_skin_tone", "💆🏻\u200d\u2642\ufe0f"),
   ("man_getting_massage_medium-dark_skin_tone", "💆🏾\u200d\u2642\ufe0f"),
   ("man_getting_massage_medium-light_skin_tone", "💆🏼\u200d\u2642\ufe0f"),
   ("man_getting_massage_medium_skin_tone", "💆🏽\u200d\u2642\ufe0f"),
   ("man_golfing", "🏌\ufe0f\u200d\u2642\ufe0f"),
   ("man_golfing_dark_skin_tone", "🏌🏿\u200d\u2642\ufe0f"),
   ("man_golfing_light_skin_tone", "🏌🏻\u200d\u2642\ufe0f"),
   ("man_golfing_medium-dark_skin_tone", "🏌🏾\u200d\u2642\ufe0f"),
   ("man_golfing_medium-light_skin_tone", "🏌🏼\u200d\u2642\ufe0f"),
   ("man_golfing_medium_skin_tone", "🏌🏽\u200d\u2642\ufe0f"), ("man_guard", "💂\u200d\u2642\ufe0f"),
   ("man_guard_dark_skin_tone", "💂🏿\u200d\u2642\ufe0f"),
   ("man_guard_light_skin_tone", "💂🏻\u200d\u2642\ufe0f"),
   ("man_guard_medium-dark_skin_tone", "💂🏾\u200d\u2642\ufe0f"),
   ("man_guard_medium-light_skin_tone", "💂🏼\u200d\u2642\ufe0f"),
   ("man_guard_medium_skin_tone", "💂🏽\u200d\u2642\ufe0f"),
   ("man_health_worker", "👨\u200d\u2695\ufe0f"),
   ("man_health_worker_dark_skin_tone", "👨🏿\u200d\u2695\ufe0f"),
   ("man_health_worker_light_skin_tone", "👨🏻\u200d\u2695\ufe0f"),
   ("man_health_worker_medium-dark_skin_tone", "👨🏾\u200d\u2695\ufe0f"),
   ("man_health_worker_medium-light_skin_tone", "👨🏼\u200d\u2695\ufe0f"),
   ("man_health_worker_medium_skin_tone", "👨🏽\u200d\u2695\ufe0f"),
   ("man_in_business_suit_levitating", "🕴"), ("man_in_lotus_position", "🧘\u200d\u2642\ufe0f"),
   ("man_in_lotus_position_dark_skin_tone", "🧘🏿\u200d\u2642\ufe0f"),
   ("man_in_lotus_position_light_skin_tone", "🧘🏻\u200d\u2642\ufe0f"),
   ("man_in_lotus_position_medium-dark_skin_tone", "🧘🏾\u200d\u2642\ufe0f"),
   ("man_in_lotus_position_medium-light_skin_tone", "🧘🏼\u200d\u2642\ufe0f"),
   ("man_in_lotus_position_medium_skin_tone", "🧘🏽\u200d\u2642\ufe0f"),
   ("man_in_manual_wheelchair", "👨\u200d🦽"), ("man_in_motorized_wheelchair", "👨\u200d🦼"),
   ("man_in_steamy_room", "🧖\u200d\u2642\ufe0f"),
   ("man_in_steamy_room_dark_skin_tone", "🧖🏿\u200d\u2642\ufe0f"),
   ("man_in_steamy_room_light_skin_tone", "🧖🏻\u200d\u2642\ufe0f"),
   ("man_in_steamy_room_medium-dark_skin_tone", "🧖🏾\u200d\u2642\ufe0f"),
   ("man_in_steamy_room_medium-light_skin_tone", "🧖🏼\u200d\u2642\ufe0f"),
   ("man_in_steamy_room_medium_skin_tone", "🧖🏽\u200d\u2642\ufe0f"),
   ("man_in_suit_levitating", "🕴"), ("man_in_suit_levitating_dark_skin_tone", "🕴🏿"),
   ("man_in_suit_levitating_light_skin_tone", "🕴🏻"),
   ("man_in_suit_levitating_medium-dark_skin_tone", "🕴🏾"),
   ("man_in_suit_levitating_medium-light_skin_tone", "🕴🏼"),
   ("man_in_suit_levitating_medium_skin_tone", "🕴🏽"), ("man_in_tuxedo", "🤵"),
   ("man_in_tuxedo_dark_skin_tone", "🤵🏿"), ("man_in_tuxedo_light_skin_tone", "🤵🏻"),
   ("man_in_tuxedo_medium-dark_skin_tone", "🤵🏾"), ("man_in_tuxedo_medium-light_skin_tone", "🤵🏼"),
   ("man_in_tuxedo_medium_skin_tone", "🤵🏽"), ("man_judge", "👨\u200d\u2696\ufe0f"),
   ("man_judge_dark_skin_tone", "👨🏿\u200d\u2696\ufe0f"),
   ("man_judge_light_skin_tone", "👨🏻\u200d\u2696\ufe0f"),
   ("man_judge_medium-dark_skin_tone", "👨🏾\u200d\u2696\ufe0f"),
   ("man_judge_medium-light_skin_tone", "👨🏼\u200d\u2696\ufe0f"),
   ("man_judge_medium_skin_tone", "👨🏽\u200d\u2696\ufe0f"),
   ("man_juggling", "🤹\u200d\u2642\ufe0f"),
   ("man_juggling_dark_skin_tone", "🤹🏿\u200d\u2642\ufe0f"),
   ("man_juggling_light_skin_tone", "🤹🏻\u200d\u2642\ufe0f"),
   ("man_juggling_medium-dark_skin_tone", "🤹🏾\u200d\u2642\ufe0f"),
   ("man_juggling_medium-light_skin_tone", "🤹🏼\u200d\u2642\ufe0f"),
   ("man_juggling_medium_skin_tone", "🤹🏽\u200d\u2642\ufe0f"),
   ("man_lifting_weights", "🏋\ufe0f\u200d\u2642\ufe0f"),
   ("man_lifting_weights_dark_skin_tone", "🏋🏿\u200d\u2642\ufe0f"),
   ("man_lifting_weights_light_skin_tone", "🏋🏻\u200d\u2642\ufe0f"),
   ("man_lifting_weights_medium-dark_skin_tone", "🏋🏾\u200d\u2642\ufe0f"),
   ("man_lifting_weights_medium-light_skin_tone", "🏋🏼\u200d\u2642\ufe0f"),
   ("man_lifting_weights_medium_skin_tone", "🏋🏽\u200d\u2642\ufe0f"),
   ("man_light_skin_tone", "👨🏻"), ("man_mage", "🧙\u200d\u2642\ufe0f"),
   ("man_mage_dark_skin_tone", "🧙🏿\u200d\u2642\ufe0f"),
   ("man_mage_light_skin_tone", "🧙🏻\u200d\u2642\ufe0f"),
   ("man_mage_medium-dark_skin_tone", "🧙🏾\u200d\u2642\ufe0f"),
   ("man_mage_medium-light_skin_tone", "🧙🏼\u200d\u2642\ufe0f"),
   ("man_mage_medium_skin_tone", "🧙🏽\u200d\u2642\ufe0f"), ("man_mechanic", "👨\u200d🔧"),
   ("man_mechanic_dark_skin_tone", "👨🏿\u200d🔧"), ("man_mechanic_light_skin_tone", "👨🏻\u200d🔧"),
   ("man_mechanic_medium-dark_skin_tone", "👨🏾\u200d🔧"),
   ("man_mechanic_medium-light_skin_tone", "👨🏼\u200d🔧"),
   ("man_mechanic_medium_skin_tone", "👨🏽\u200d🔧"), ("man_medium-dark_skin_tone", "👨🏾"),
   ("man_medium-light_skin_tone", "👨🏼"), ("man_medium_skin_tone", "👨🏽"),
   ("man_mountain_biking", "🚵\u200d\u2642\ufe0f"),
   ("man_mountain_biking_dark_skin_tone", "🚵🏿\u200d\u2642\ufe0f"),
   ("man_mountain_biking_light_skin_tone", "🚵🏻\u200d\u2642\ufe0f"),
   ("man_mountain_biking_medium-dark_skin_tone", "🚵🏾\u200d\u2642\ufe0f"),
   ("man_mountain_biking_medium-light_skin_tone", "🚵🏼\u200d\u2642\ufe0f"),
   ("man_mountain_biking_medium_skin_tone", "🚵🏽\u200d\u2642\ufe0f"),
   ("man_office_worker", "👨\u200d💼"), ("man_office_worker_dark_skin_tone", "👨🏿\u200d💼"),
   ("man_office_worker_light_skin_tone", "👨🏻\u200d💼"),
   ("man_office_worker_medium-dark_skin_tone", "👨🏾\u200d💼"),
   ("man_office_worker_medium-light_skin_tone", "👨🏼\u200d💼"),
   ("man_office_worker_medium_skin_tone", "👨🏽\u200d💼"), ("man_pilot", "👨\u200d\u2708\ufe0f"),
   ("man_pilot_dark_skin_tone", "👨🏿\u200d\u2708\ufe0f"),
   ("man_pilot_light_skin_tone", "👨🏻\u200d\u2708\ufe0f"),
   ("man_pilot_medium-dark_skin_tone", "👨🏾\u200d\u2708\ufe0f"),
   ("man_pilot_medium-light_skin_tone", "👨🏼\u200d\u2708\ufe0f"),
   ("man_pilot_medium_skin_tone", "👨🏽\u200d\u2708\ufe0f"),
   ("man_playing_handball", "🤾\u200d\u2642\ufe0f"),
   ("man_playing_handball_dark_skin_tone", "🤾🏿\u200d\u2642\ufe0f"),
   ("man_playing_handball_light_skin_tone", "🤾🏻\u200d\u2642\ufe0f"),
   ("man_playing_handball_medium-dark_skin_tone", "🤾🏾\u200d\u2642\ufe0f"),
   ("man_playing_handball_medium-light_skin_tone", "🤾🏼\u200d\u2642\ufe0f"),
   ("man_playing_handball_medium_skin_tone", "🤾🏽\u200d\u2642\ufe0f"),
   ("man_playing_water_polo", "🤽\u200d\u2642\ufe0f"),
   ("man_playing_water_polo_dark_skin_tone", "🤽🏿\u200d\u2642\ufe0f"),
   ("man_playing_water_polo_light_skin_tone", "🤽🏻\u200d\u2642\ufe0f"),
   ("man_playing_water_polo_medium-dark_skin_tone", "🤽🏾\u200d\u2642\ufe0f"),
   ("man_playing_water_polo_medium-light_skin_tone", "🤽🏼\u200d\u2642\ufe0f"),
   ("man_playing_water_polo_medium_skin_tone", "🤽🏽\u200d\u2642\ufe0f"),
   ("man_police_officer", "👮\u200d\u2642\ufe0f"),
   ("man_police_officer_dark_skin_tone", "👮🏿\u200d\u2642\ufe0f"),
   ("man_police_officer_light_skin_tone", "👮🏻\u200d\u2642\ufe0f"),
   ("man_police_officer_medium-dark_skin_tone", "👮🏾\u200d\u2642\ufe0f"),
   ("man_police_officer_medium-light_skin_tone", "👮🏼\u200d\u2642\ufe0f"),
   ("man_police_officer_medium_skin_tone", "👮🏽\u200d\u2642\ufe0f"),
   ("man_pouting", "🙎\u200d\u2642\ufe0f"), ("man_pouting_dark_skin_tone", "🙎🏿\u200d\u2642\ufe0f"),
   ("man_pouting_light_skin_tone", "🙎🏻\u200d\u2642\ufe0f"),
   ("man_pouting_medium-dark_skin_tone", "🙎🏾\u200d\u2642\ufe0f"),
   ("man_pouting_medium-light_skin_tone", "🙎🏼\u200d\u2642\ufe0f"),
   ("man_pouting_medium_skin_tone", "🙎🏽\u200d\u2642\ufe0f"),
   ("man_raising_hand", "🙋\u200d\u2642\ufe0f"),
   ("man_raising_hand_dark_skin_tone", "🙋🏿\u200d\u2642\ufe0f"),
   ("man_raising_hand_light_skin_tone", "🙋🏻\u200d\u2642\ufe0f"),
   ("man_raising_hand_medium-dark_skin_tone", "🙋🏾\u200d\u2642\ufe0f"),
   ("man_raising_hand_medium-light_skin_tone", "🙋🏼\u200d\u2642\ufe0f"),
   ("man_raising_hand_medium_skin_tone", "🙋🏽\u200d\u2642\ufe0f"),
   ("man_rowing_boat", "🚣\u200d\u2642\ufe0f"),
   ("man_rowing_boat_dark_skin_tone", "🚣🏿\u200d\u2642\ufe0f"),
   ("man_rowing_boat_light_skin_tone", "🚣🏻\u200d\u2642\ufe0f"),
   ("man_rowing_boat_medium-dark_skin_tone", "🚣🏾\u200d\u2642\ufe0f"),
   ("man_rowing_boat_medium-light_skin_tone", "🚣🏼\u200d\u2642\ufe0f"),
   ("man_rowing_boat_medium_skin_tone", "🚣🏽\u200d\u2642\ufe0f"),
   ("man_running", "🏃\u200d\u2642\ufe0f"), ("man_running_dark_skin_tone", "🏃🏿\u200d\u2642\ufe0f"),
   ("man_running_light_skin_tone", "🏃🏻\u200d\u2642\ufe0f"),
   ("man_running_medium-dark_skin_tone", "🏃🏾\u200d\u2642\ufe0f"),
   ("man_running_medium-light_skin_tone", "🏃🏼\u200d\u2642\ufe0f"),
   ("man_running_medium_skin_tone", "🏃🏽\u200d\u2642\ufe0f"), ("man_scientist", "👨\u200d🔬"),
   ("man_scientist_dark_skin_tone", "👨🏿\u200d🔬"), ("man_scientist_light_skin_tone", "👨🏻\u200d🔬"),
   ("man_scientist_medium-dark_skin_tone", "👨🏾\u200d🔬"),
   ("man_scientist_medium-light_skin_tone", "👨🏼\u200d🔬"),
   ("man_scientist_medium_skin_tone", "👨🏽\u200d🔬"), ("man_shrugging", "🤷\u200d\u2642\ufe0f"),
   ("man_shrugging_dark_skin_tone", "🤷🏿\u200d\u2642\ufe0f"),
   ("man_shrugging_light_skin_tone", "🤷🏻\u200d\u2642\ufe0f"),
   ("man_shrugging_medium-dark_skin_tone", "🤷🏾\u200d\u2642\ufe0f"),
   ("man_shrugging_medium-light_skin_tone", "🤷🏼\u200d\u2642\ufe0f"),
   ("man_shrugging_medium_skin_tone", "🤷🏽\u200d\u2642\ufe0f"), ("man_singer", "👨\u200d🎤"),
   ("man_singer_dark_skin_tone", "👨🏿\u200d🎤"), ("man_singer_light_skin_tone", "👨🏻\u200d🎤"),
   ("man_singer_medium-dark_skin_tone", "👨🏾\u200d🎤"),
   ("man_singer_medium-light_skin_tone", "👨🏼\u200d🎤"),
   ("man_singer_medium_skin_tone", "👨🏽\u200d🎤"), ("man_student", "👨\u200d🎓"),
   ("man_student_dark_skin_tone", "👨🏿\u200d🎓"), ("man_student_light_skin_tone", "👨🏻\u200d🎓"),
   ("man_student_medium-dark_skin_tone", "👨🏾\u200d🎓"),
   ("man_student_medium-light_skin_tone", "👨🏼\u200d🎓"),
   ("man_student_medium_skin_tone", "👨🏽\u200d🎓"), ("man_surfing", "🏄\u200d\u2642\ufe0f"),
   ("man_surfing_dark_skin_tone", "🏄🏿\u200d\u2642\ufe0f"),
   ("man_surfing_light_skin_tone", "🏄🏻\u200d\u2642\ufe0f"),
   ("man_surfing_medium-dark_skin_tone", "🏄🏾\u200d\u2642\ufe0f"),
   ("man_surfing_medium-light_skin_tone", "🏄🏼\u200d\u2642\ufe0f"),
   ("man_surfing_medium_skin_tone", "🏄🏽\u200d\u2642\ufe0f"),
   ("man_swimming", "🏊\u200d\u2642\ufe0f"),
   ("man_swimming_dark_skin_tone", "🏊🏿\u200d\u2642\ufe0f"),
   ("man_swimming_light_skin_tone", "🏊🏻\u200d\u2642\ufe0f"),
   ("man_swimming_medium-dark_skin_tone", "🏊🏾\u200d\u2642\ufe0f"),
   ("man_swimming_medium-light_skin_tone", "🏊🏼\u200d\u2642\ufe0f"),
   ("man_swimming_medium_skin_tone", "🏊🏽\u200d\u2642\ufe0f"), ("man_teacher", "👨\u200d🏫"),
   ("man_teacher_dark_skin_tone", "👨🏿\u200d🏫"), ("man_teacher_light_skin_tone", "👨🏻\u200d🏫"),
   ("man_teacher_medium-dark_skin_tone", "👨🏾\u200d🏫"),
   ("man_teacher_medium-light_skin_tone", "👨🏼\u200d🏫"),
   ("man_teacher_medium_skin_tone", "👨🏽\u200d🏫"), ("man_technologist", "👨\u200d💻"),
   ("man_technologist_dark_skin_tone", "👨🏿\u200d💻"),
   ("man_technologist_light_skin_tone", "👨🏻\u200d💻"),
   ("man_technologist_medium-dark_skin_tone", "👨🏾\u200d💻"),
   ("man_technologist_medium-light_skin_tone", "👨🏼\u200d💻"),
   ("man_technologist_medium_skin_tone", "👨🏽\u200d💻"),
   ("man_tipping_hand", "💁\u200d\u2642\ufe0f"),
   ("man_tipping_hand_dark_skin_tone", "💁🏿\u200d\u2642\ufe0f"),
   ("man_tipping_hand_light_skin_tone", "💁🏻\u200d\u2642\ufe0f"),
   ("man_tipping_hand_medium-dark_skin_tone", "💁🏾\u200d\u2642\ufe0f"),
   ("man_tipping_hand_medium-light_skin_tone", "💁🏼\u200d\u2642\ufe0f"),
   ("man_tipping_hand_medium_skin_tone", "💁🏽\u200d\u2642\ufe0f"),
   ("man_vampire", "🧛\u200d\u2642\ufe0f"), ("man_vampire_dark_skin_tone", "🧛🏿\u200d\u2642\ufe0f"),
   ("man_vampire_light_skin_tone", "🧛🏻\u200d\u2642\ufe0f"),
   ("man_vampire_medium-dark_skin_tone", "🧛🏾\u200d\u2642\ufe0f"),
   ("man_vampire_medium-light_skin_tone", "🧛🏼\u200d\u2642\ufe0f"),
   ("man_vampire_medium_skin_tone", "🧛🏽\u200d\u2642\ufe0f"),
   ("man_walking", "🚶\u200d\u2642\ufe0f"), ("man_walking_dark_skin_tone", "🚶🏿\u200d\u2642\ufe0f"),
   ("man_walking_light_skin_tone", "🚶🏻\u200d\u2642\ufe0f"),
   ("man_walking_medium-dark_skin_tone", "🚶🏾\u200d\u2642\ufe0f"),
   ("man_walking_medium-light_skin_tone", "🚶🏼\u200d\u2642\ufe0f"),
   ("man_walking_medium_skin_tone", "🚶🏽\u200d\u2642\ufe0f"),
   ("man_wearing_turban", "👳\u200d\u2642\ufe0f"),
   ("man_wearing_turban_dark_skin_tone", "👳🏿\u200d\u2642\ufe0f"),
   ("man_wearing_turban_light_skin_tone", "👳🏻\u200d\u2642\ufe0f"),
   ("man_wearing_turban_medium-dark_skin_tone", "👳🏾\u200d\u2642\ufe0f"),
   ("man_wearing_turban_medium-light_skin_tone", "👳🏼\u200d\u2642\ufe0f"),
   ("man_wearing_turban_medium_skin_tone", "👳🏽\u200d\u2642\ufe0f"), ("man_with_chinese_cap", "👲"),
   ("man_with_chinese_cap_dark_skin_tone", "👲🏿"), ("man_with_chinese_cap_light_skin_tone", "👲🏻"),
   ("man_with_chinese_cap_medium-dark_skin_tone", "👲🏾"),
   ("man_with_chinese_cap_medium-light_skin_tone", "👲🏼"),
   ("man_with_chinese_cap_medium_skin_tone", "👲🏽"), ("man_with_gua_pi_mao", "👲"),
   ("man_with_probing_cane", "👨\u200d🦯"), ("man_with_turban", "👳"),
   ("man_zombie", "🧟\u200d\u2642\ufe0f"), ("mango", "🥭"), ("mans_shoe", "👞"),
   ("mantelpiece_clock", "🕰"), ("manual_wheelchair", "🦽"), ("man\u2019s_shoe", "👞"),
   ("map_of_japan", "🗾"), ("maple_leaf", "🍁"), ("marshall_islands", "🇲🇭"),
   ("martial_arts_uniform", "🥋"), ("martinique", "🇲🇶"), ("mask", "😷"), ("massage", "💆"),
   ("mate", "🧉"), ("mauritania", "🇲🇷"), ("mauritius", "🇲🇺"), ("mayotte", "🇾🇹"),
   ("meat_on_bone", "🍖"), ("mechanical_arm", "🦾"), ("mechanical_leg", "🦿"),
   ("medical_symbol", "\u2695"), ("medium_dark_skin_tone", "🏾"), ("medium_light_skin_tone", "🏼"),
   ("medium_skin_tone", "🏽"), ("mega", "📣"), ("megaphone", "📣"), ("melon", "🍈"), ("memo", "📝"),
   ("men_with_bunny_ears", "👯\u200d\u2642\ufe0f"), ("men_wrestling", "🤼\u200d\u2642\ufe0f"),
   ("menorah", "🕎"), ("menorah_with_nine_branches", "🕎"), ("mens", "🚹"), ("men\u2019s_room", "🚹"),
   ("mermaid", "🧜\u200d\u2640\ufe0f"), ("mermaid_dark_skin_tone", "🧜🏿\u200d\u2640\ufe0f"),
   ("mermaid_light_skin_tone", "🧜🏻\u200d\u2640\ufe0f"),
   ("mermaid_medium-dark_skin_tone", "🧜🏾\u200d\u2640\ufe0f"),
   ("mermaid_medium-light_skin_tone", "🧜🏼\u200d\u2640\ufe0f"),
   ("mermaid_medium_skin_tone", "🧜🏽\u200d\u2640\ufe0f"), ("merman", "🧜\u200d\u2642\ufe0f"),
   ("merman_dark_skin_tone", "🧜🏿\u200d\u2642\ufe0f"),
   ("merman_light_skin_tone", "🧜🏻\u200d\u2642\ufe0f"),
   ("merman_medium-dark_skin_tone", "🧜🏾\u200d\u2642\ufe0f"),
   ("merman_medium-light_skin_tone", "🧜🏼\u200d\u2642\ufe0f"),
   ("merman_medium_skin_tone", "🧜🏽\u200d\u2642\ufe0f"), ("merperson", "🧜"),
   ("merperson_dark_skin_tone", "🧜🏿"), ("merperson_light_skin_tone", "🧜🏻"),
   ("merperson_medium-dark_skin_tone", "🧜🏾"), ("merperson_medium-light_skin_tone", "🧜🏼"),
   ("merperson_medium_skin_tone", "🧜🏽"), ("metro", "🚇"), ("mexico", "🇲🇽"), ("microbe", "🦠"),
   ("micronesia", "🇫🇲"), ("microphone", "🎤"), ("microscope", "🔬"), ("middle_finger", "🖕"),
   ("middle_finger_dark_skin_tone", "🖕🏿"), ("middle_finger_light_skin_tone", "🖕🏻"),
   ("middle_finger_medium-dark_skin_tone", "🖕🏾"), ("middle_finger_medium-light_skin_tone", "🖕🏼"),
   ("middle_finger_medium_skin_tone", "🖕🏽"), ("military_medal", "🎖"), ("milky_way", "🌌"),
   ("minibus", "🚐"), ("minidisc", "💽"), ("moai", "🗿"), ("mobile_phone", "📱"),
   ("mobile_phone_off", "📴"), ("mobile_phone_with_arrow", "📲"), ("moldova", "🇲🇩"),
   ("monaco", "🇲🇨"), ("money-mouth_face", "🤑"), ("money__mouth_face", "🤑"), ("money_bag", "💰"),
   ("money_with_wings", "💸"), ("moneybag", "💰"), ("mongolia", "🇲🇳"), ("monkey", "🐒"),
   ("monkey_face", "🐵"), ("monorail", "🚝"), ("montenegro", "🇲🇪"), ("montserrat", "🇲🇸"),
   ("moon", "🌔"), ("moon_cake", "🥮"), ("moon_viewing_ceremony", "🎑"), ("morocco", "🇲🇦"),
   ("mortar_board", "🎓"), ("mosque", "🕌"), ("mosquito", "🦟"), ("motor_boat", "🛥"),
   ("motor_scooter", "🛵"), ("motorcycle", "🏍"), ("motorized_wheelchair", "🦼"), ("motorway", "🛣"),
   ("mount_fuji", "🗻"), ("mountain", "\u26f0"), ("mountain_bicyclist", "🚵"),
   ("mountain_cableway", "🚠"), ("mountain_railway", "🚞"), ("mouse", "🐭"), ("mouse2", "🐁"),
   ("mouse_face", "🐭"), ("mouth", "👄"), ("movie_camera", "🎥"), ("moyai", "🗿"),
   ("mozambique", "🇲🇿"), ("mrs._claus", "🤶"), ("mrs._claus_dark_skin_tone", "🤶🏿"),
   ("mrs._claus_light_skin_tone", "🤶🏻"), ("mrs._claus_medium-dark_skin_tone", "🤶🏾"),
   ("mrs._claus_medium-light_skin_tone", "🤶🏼"), ("mrs._claus_medium_skin_tone", "🤶🏽"),
   ("muscle", "💪"), ("mushroom", "🍄"), ("musical_keyboard", "🎹"), ("musical_note", "🎵"),
   ("musical_notes", "🎶"), ("musical_score", "🎼"), ("mute", "🔇"), ("muted_speaker", "🔇"),
   ("myanmar_(burma)", "🇲🇲")]

def emojiN : List (String × String) :=
  [("nail_care", "💅"), ("nail_polish", "💅"), ("nail_polish_dark_skin_tone", "💅🏿"),
   ("nail_polish_light_skin_tone", "💅🏻"), ("nail_polish_medium-dark_skin_tone", "💅🏾"),
   ("nail_polish_medium-light_skin_tone", "💅🏼"), ("nail_polish_medium_skin_tone", "💅🏽"),
   ("name_badge", "📛"), ("namibia", "🇳🇦"), ("national_park", "🏞"), ("nauru", "🇳🇷"),
   ("nauseated_face", "🤢"), ("nazar_amulet", "🧿"), ("necktie", "👔"),
   ("negative_squared_cross_mark", "\u274e"), ("nepal", "🇳🇵"), ("nerd_face", "🤓"),
   ("netherlands", "🇳🇱"), ("neutral_face", "😐"), ("new", "🆕"), ("new_button", "🆕"),
   ("new_caledonia", "🇳🇨"), ("new_moon", "🌑"), ("new_moon_face", "🌚"),
   ("new_moon_with_face", "🌚"), ("new_zealand", "🇳🇿"), ("newspaper", "📰"),
   ("next_track_button", "\u23ed"), ("ng", "🆖"), ("ng_button", "🆖"), ("nicaragua", "🇳🇮"),
   ("niger", "🇳🇪"), ("nigeria", "🇳🇬"), ("night_with_stars", "🌃"), ("nine", "9\ufe0f\u20e3"),
   ("nine-thirty", "🕤"), ("nine_o\u2019clock", "🕘"), ("niue", "🇳🇺"), ("no_bell", "🔕"),
   ("no_bicycles", "🚳"), ("no_entry", "\u26d4"), ("no_entry_sign", "🚫"), ("no_good", "🙅"),
   ("no_littering", "🚯"), ("no_mobile_phones", "📵"), ("no_mouth", "😶"),
   ("no_one_under_eighteen", "🔞"), ("no_pedestrians", "🚷"), ("no_smoking", "🚭"),
   ("non-potable_water", "🚱"), ("non__potable_water", "🚱"), ("norfolk_island", "🇳🇫"),
   ("north_korea", "🇰🇵"), ("northern_mariana_islands", "🇲🇵"), ("norway", "🇳🇴"), ("nose", "👃"),
   ("nose_dark_skin_tone", "👃🏿"), ("nose_light_skin_tone", "👃🏻"),
   ("nose_medium-dark_skin_tone", "👃🏾"), ("nose_medium-light_skin_tone", "👃🏼"),
   ("nose_medium_skin_tone", "👃🏽"), ("notebook", "📓"), ("notebook_with_decorative_cover", "📔"),
   ("notes", "🎶"), ("nut_and_bolt", "🔩")]

end LinkIndex.Report
